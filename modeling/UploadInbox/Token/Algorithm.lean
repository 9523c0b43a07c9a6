import UploadInbox.Digest.Hmac

/-!
# Signature algorithms of tokens

The algorithms that the header of a token may name: keyed digests, the two paddings of signatures
by factoring, curves, and one that no key of this service is made for.
-/
namespace UploadInbox.Token

inductive Algorithm where
  | keyed (digest : Digest)
  | fixedPadding (digest : Digest)
  | saltedPadding (digest : Digest)
  | curve256
  | curve384
  | edwards
  deriving DecidableEq

namespace Algorithm

def table : List (Text × Algorithm) := [
  ("HS256", keyed .sha256), ("HS384", keyed .sha384), ("HS512", keyed .sha512),
  ("RS256", fixedPadding .sha256), ("RS384", fixedPadding .sha384),
  ("RS512", fixedPadding .sha512), ("PS256", saltedPadding .sha256),
  ("PS384", saltedPadding .sha384), ("PS512", saltedPadding .sha512),
  ("ES256", curve256), ("ES384", curve384), ("EdDSA", edwards)]

def ofName? (name : Text) : Option Algorithm :=
  (table.find? fun entry => entry.1 = name).map (·.2)

end Algorithm
end UploadInbox.Token
