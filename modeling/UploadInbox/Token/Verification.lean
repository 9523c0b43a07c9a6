import UploadInbox.Crypto.Curve
import UploadInbox.Token.Claims
import UploadInbox.Token.Key

/-!
# Verification of tokens

A token is three parts with points between them: a header, claims and a signature of both. It is
accepted when the header names the expected algorithm, the signature is right, the claims are well
formed, the token has not expired, and it is meant for no particular audience.

Source: `validate_jwt` (`Verifier.verify`), with the checks that `new` of `JwtAuthenticator` asks
for.
-/
namespace UploadInbox.Token

inductive Fault where
  | parts | base64 | json | algorithm | curveKey | signature | expired | audience
  deriving DecidableEq, Repr

def Fault.message : Fault → Text
  | parts => "InvalidToken"
  | base64 => "Base64 error: not the written form of any octets"
  | json => "JSON error: not the expected object"
  | algorithm => "InvalidAlgorithm"
  | curveKey => "InvalidEcdsaKey"
  | signature => "InvalidSignature"
  | expired => "ExpiredSignature"
  | audience => "InvalidAudience"

structure Parts where
  header : Text
  claims : Text
  signature : Text

/-- The parts of a text with two points or more; all but the last two belong to the header. -/
def Parts.ofText? (t : Text) : Option Parts := do
  let (message, signature) ← Text.cutLast? '.' t
  let (header, claims) ← Text.cutLast? '.' message
  return ⟨header, claims, signature⟩

/-- What the signature of a token covers. -/
def Parts.message (p : Parts) : Bytes := Utf8.encode (p.header ++ '.' :: p.claims)

/-- Whether a signature is one of a message; a key that does not fit is a fault. -/
def Verifier.check (verifier : Verifier) (message : Bytes) :
    Except Fault (Bytes → Bool) :=
  let onCurve (curve : Curve) (digest : Digest) : Except Fault (Bytes → Bool) :=
    match curve.point? verifier.key with
    | some key => .ok (curve.verify key (digest.hash message))
    | none => .error .curveKey
  let withKey (verify : Rsa.Key → Bytes → Bool) : Except Fault (Bytes → Bool) :=
    .ok fun signature => ((Rsa.Key.ofDer? verifier.key).map (verify · signature)).getD false
  match verifier.algorithm with
  | .keyed digest => .ok fun signature => digest.hmac verifier.key message == signature
  | .fixedPadding digest =>
    withKey fun key signature => Rsa.verifyFixed key digest message signature
  | .saltedPadding digest =>
    withKey fun key signature => Rsa.verifySalted key digest message signature
  | .curve256 => onCurve .p256 .sha256
  | .curve384 => onCurve .p384 .sha384
  | .edwards => .ok fun _ => false

/-- Whether a token has expired. The leeway is taken off the instant in sixty-four bits. -/
def Verifier.isExpired (verifier : Verifier) (now expiry : UInt64) : Bool :=
  expiry < now - verifier.leeway

/-- The claims of octets at an instant, if they are well formed and the token is valid. -/
def Verifier.accept (verifier : Verifier) (now : UInt64) (octets : Bytes) : Except Fault Claims :=
  match jsonOfBytes? octets with
  | none => .error .json
  | some json =>
    match Claims.ofJson? json with
    | none => .error .json
    | some claims =>
      let notBefore := json.members "nbf"
      let audience := json.members "aud"
      if 1 < notBefore.length || 1 < audience.length || !notBefore.all isFlat then .error .json
      else if verifier.isExpired now claims.expiry then .error .expired
      else if audience.any isAudience then .error .audience
      else .ok claims

def Verifier.verify (verifier : Verifier) (now : UInt64) (token : Text) : Except Fault Claims :=
  match Parts.ofText? token with
  | none => .error .parts
  | some parts =>
    match Base64.decodeUrlSafe? parts.header with
    | none => .error .base64
    | some header =>
      match (jsonOfBytes? header).bind headerAlgorithm? with
      | none => .error .json
      | some algorithm =>
        if algorithm ≠ verifier.algorithm then .error .algorithm
        else
          -- A key that does not fit is reported before the signature is read at all.
          match verifier.check parts.message with
          | .error fault => .error fault
          | .ok isSignature =>
            match Base64.decodeUrlSafe? parts.signature with
            | none => .error .base64
            | some signature =>
              if !isSignature signature then .error .signature
              else
                match Base64.decodeUrlSafe? parts.claims with
                | none => .error .base64
                | some claims => verifier.accept now claims

end UploadInbox.Token
