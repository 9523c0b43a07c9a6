import UploadInbox.Digest.Hmac
import UploadInbox.Signing.Canonical
import UploadInbox.Text.Quoted
import UploadInbox.Time.Civil

/-!
# Request signatures

A signature is made with a key derived from the secret and the scope: the day, the region and the
service. What is signed is the digest of the canonical request, together with scope and instant.

Source: `derive_signing_key`, `create_string_to_sign`, `sign_request` (`authorization`),
`is_signed_header` and `authorization_for` (`storeAuthorization`), with `BackendCredentials`,
`hmac_sha256` and `sha256_hex`.
-/
namespace UploadInbox

structure Credentials where
  accessKey : Text
  secretKey : Text
  region : Text
  deriving DecidableEq

/-- Credentials as diagnostics show them: without the secret. -/
def Credentials.shown (credentials : Credentials) : Text :=
  "BackendCredentials \x7b access_key: " ++ Quoted.text credentials.accessKey ++ ", region: "
    ++ Quoted.text credentials.region ++ ", .. \x7d"

namespace Signing

def algorithm : Text := "AWS4-HMAC-SHA256"

/-- The last part of every scope. -/
def terminator : Text := "aws4_request"

/-- Where and when a signature is valid. -/
structure Scope where
  /-- The day, in eight digits. -/
  date : Text
  region : Text
  service : Text

def Scope.written (scope : Scope) : Text :=
  scope.date ++ '/' :: scope.region ++ '/' :: scope.service ++ '/' :: terminator

def hmac (key : Bytes) (t : Text) : Bytes := Digest.sha256.hmac key (Utf8.encode t)

def hexDigest (bytes : Bytes) : Text := Hex.encode (Digest.sha256.hash bytes)

/-- The key that a secret gives for a scope. -/
def signingKey (secretKey : Text) (scope : Scope) : Bytes :=
  let dateKey := hmac (Utf8.encode ("AWS4" ++ secretKey)) scope.date
  let regionKey := hmac dateKey scope.region
  let serviceKey := hmac regionKey scope.service
  hmac serviceKey terminator

/-- The text that is signed for a request. -/
def stringToSign (subject : Subject) (scope : Scope) (timestamp : Text) : Text :=
  algorithm ++ '\n' :: timestamp ++ '\n' :: scope.written
    ++ '\n' :: hexDigest (Utf8.encode subject.canonical)

/-- The value of the authorization header of a request. -/
def authorization (subject : Subject) (accessKey secretKey : Text) (scope : Scope)
    (timestamp : Text) : Text :=
  let signature :=
    Hex.encode (hmac (signingKey secretKey scope) (stringToSign subject scope timestamp))
  algorithm ++ " Credential=" ++ accessKey ++ '/' :: scope.written ++ ", SignedHeaders="
    ++ signedNames subject.headers ++ ", Signature=" ++ signature

def storeService : Text := "s3"

/-- Whether a header takes part in the signature: those of the protocol do, those that
intermediaries may change do not. -/
def isSigned (name : Text) : Bool :=
  let name := Text.lowerAscii name
  name = "host" || name = "content-md5" || name = "content-type"
    || Text.startsWith "x-amz-" name

def signedFields (headers : SortedFields) : SortedFields :=
  SortedFields.ofList ((headers.filter fun field => isSigned field.1).map fun field =>
    (Text.lowerAscii field.1, field.2))

/-- The value of the authorization header of a request to the store. -/
def storeAuthorization (credentials : Credentials) (subject : Subject) (date timestamp : Text) :
    Text :=
  authorization { subject with headers := signedFields subject.headers } credentials.accessKey
    credentials.secretKey ⟨date, credentials.region, storeService⟩ timestamp

end Signing
end UploadInbox
