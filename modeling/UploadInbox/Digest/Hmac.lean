import UploadInbox.Digest.Sha2

/-!
# Keyed digests

A digest function and the message authentication code made from it: the key, filled up with zeros
to a block, goes into two passes with a different mask each.
-/
namespace UploadInbox

inductive Digest where
  | sha256 | sha384 | sha512
  deriving DecidableEq, Repr

namespace Digest

def hash : Digest → Bytes → Bytes
  | sha256 => Sha2.sha256
  | sha384 => Sha2.sha384
  | sha512 => Sha2.sha512

def size : Digest → Nat
  | sha256 => 32
  | sha384 => 48
  | sha512 => 64

/-- The number of octets that the function takes in at a time. -/
def blockSize : Digest → Nat
  | sha256 => 64
  | sha384 | sha512 => 128

/-- A key of exactly one block: a longer one is replaced by its digest. -/
def blockKey (digest : Digest) (key : Bytes) : Bytes :=
  let key := if digest.blockSize < key.length then digest.hash key else key
  key ++ List.replicate (digest.blockSize - key.length) 0

def hmac (digest : Digest) (key message : Bytes) : Bytes :=
  let key := digest.blockKey key
  digest.hash (key.map (· ^^^ 0x5C) ++ digest.hash (key.map (· ^^^ 0x36) ++ message))

end Digest
end UploadInbox
