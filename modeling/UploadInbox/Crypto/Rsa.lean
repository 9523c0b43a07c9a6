import UploadInbox.Crypto.Der
import UploadInbox.Digest.Hmac

/-!
# Signatures by factoring

A signature is a number below the modulus; raised to the public exponent it must give the digest in
one of two paddings: the older one is fixed, the newer one holds a salt of the digest's length.
-/
namespace UploadInbox

/-- A power modulo a number, over the binary digits of the exponent. -/
def powMod (modulus base exponent : Nat) : Nat :=
  (Nat.toDigits 2 exponent).foldl (fun power bit =>
    let square := power * power % modulus
    if bit = '1' then square * base % modulus else square) 1

namespace Rsa

structure Key where
  modulus : Nat
  exponent : Nat
  deriving DecidableEq

def bitLength (n : Nat) : Nat := if n = 0 then 0 else n.log2 + 1

/-- The number of octets of a signature. -/
def Key.size (key : Key) : Nat := (bitLength key.modulus + 7) / 8

/-- The key of an encoded pair of numbers, if it is of a size and shape in use. -/
def Key.ofDer? (bytes : Bytes) : Option Key := do
  match ← Der.ofBytes? bytes with
  | [.sequence [.integer n, .integer e]] =>
    let modulus ← Der.positive? n
    let exponent ← Der.positive? e
    if bitLength modulus ≤ 4096 ∧ modulus % 2 = 1 ∧ 2 ≤ exponent ∧ exponent < 0x200000000
        ∧ exponent % 2 = 1 then
      some ⟨modulus, exponent⟩
    else none
  | _ => none

/-- The message that a signature holds, as octets. -/
def Key.open? (key : Key) (signature : Bytes) : Option Bytes :=
  let s := Sha2.ofBigEndian signature
  if signature.length = key.size ∧ s < key.modulus then
    some (Sha2.bigEndian key.size (powMod key.modulus s key.exponent))
  else none

/-- What precedes a digest in the fixed padding: the name of the function and a length. -/
def digestInfo : Digest → Bytes
  | .sha256 => [0x30, 0x31, 0x30, 0x0D, 0x06, 0x09, 0x60, 0x86, 0x48, 0x01, 0x65, 0x03, 0x04, 0x02,
      0x01, 0x05, 0x00, 0x04, 0x20]
  | .sha384 => [0x30, 0x41, 0x30, 0x0D, 0x06, 0x09, 0x60, 0x86, 0x48, 0x01, 0x65, 0x03, 0x04, 0x02,
      0x02, 0x05, 0x00, 0x04, 0x30]
  | .sha512 => [0x30, 0x51, 0x30, 0x0D, 0x06, 0x09, 0x60, 0x86, 0x48, 0x01, 0x65, 0x03, 0x04, 0x02,
      0x03, 0x05, 0x00, 0x04, 0x40]

/-- Whether a signature with the fixed padding is one of the message. -/
def verifyFixed (key : Key) (digest : Digest) (message signature : Bytes) : Bool :=
  let tail := digestInfo digest ++ digest.hash message
  let filling := key.size - tail.length - 3
  tail.length + 11 ≤ key.size &&
    key.open? signature == some ([0x00, 0x01] ++ List.replicate filling 0xFF ++ [0x00] ++ tail)

/-- Octets made from a seed, digest after digest, the digests numbered from `counter` on. -/
def mask (digest : Digest) (seed : Bytes) : Nat → Nat → Bytes
  | 0, _ => []
  | count + 1, counter =>
    digest.hash (seed ++ Sha2.bigEndian 4 counter) ++ mask digest seed count (counter + 1)

def combine (a b : Bytes) : Bytes := List.zipWith (· ^^^ ·) a b

/-- Whether a signature with the salted padding is one of the message. -/
def verifySalted (key : Key) (digest : Digest) (message signature : Bytes) : Bool :=
  let bits := bitLength key.modulus - 1
  let size := (bits + 7) / 8
  let hashSize := digest.size
  match key.open? signature with
  | none => false
  | some opened =>
    let surplus := opened.take (opened.length - size)
    let encoded := opened.drop (opened.length - size)
    let dataSize := size - hashSize - 1
    let hidden := encoded.take dataSize
    let proof := (encoded.drop dataSize).take hashSize
    let spare := 8 * size - bits
    let lowBits : UInt8 := UInt8.ofNat (1 <<< (8 - spare) - 1)
    let data := combine hidden (mask digest proof (dataSize / hashSize + 1) 0)
    let data := match data with
      | [] => []
      | b :: rest => (b &&& lowBits) :: rest
    let zeros := dataSize - hashSize - 1
    let salt := data.drop (zeros + 1)
    2 * hashSize + 2 ≤ size && surplus.all (· == 0) && encoded.getLast? == some 0xBC
      && (hidden.headD 0 &&& ~~~lowBits) == 0
      && data.take (zeros + 1) == List.replicate zeros (0 : UInt8) ++ [1]
      && digest.hash (List.replicate 8 (0 : UInt8) ++ digest.hash message ++ salt) == proof

end Rsa
end UploadInbox
