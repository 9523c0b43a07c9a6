import UploadInbox.Config.Auth
import UploadInbox.Crypto.Der
import UploadInbox.Crypto.Pem
import UploadInbox.Error
import UploadInbox.Files
import UploadInbox.Token.Algorithm

/-!
# Keys of tokens

A key is a shared secret or what an armoured file holds. Such a file says by its label and by the
registered names in it which kind of key it is; a kind that does not fit the algorithm is refused
when the key is loaded.

Source: `new` of `JwtAuthenticator` (`Verifier.ofConfig`).
-/
namespace UploadInbox.Token

inductive KeyKind where
  | curve | factoring | edwards
  deriving DecidableEq, Repr

namespace KeyKind

/-- The kind that a registered name stands for. -/
def ofIdentifier? (octets : Bytes) : Option KeyKind :=
  if octets = [0x2A, 0x86, 0x48, 0xCE, 0x3D, 0x02, 0x01] then some curve
  else if octets = [0x2A, 0x86, 0x48, 0x86, 0xF7, 0x0D, 0x01, 0x01, 0x01] then some factoring
  else if octets = [0x2B, 0x65, 0x70] then some edwards
  else none

def find? (values : List Der.Value) : Option KeyKind :=
  Der.findIn (fun
    | .identifier octets => ofIdentifier? octets
    | _ => none) values

end KeyKind

/-- The octets of the key for signatures by factoring in an armoured file. -/
def factoringKey? (pem : Pem) (values : List Der.Value) : Option Bytes :=
  if pem.label = "RSA PUBLIC KEY" ∨ pem.label = "RSA PRIVATE KEY" then some pem.content
  else if pem.label = "PUBLIC KEY" ∨ pem.label = "PRIVATE KEY" ∨ pem.label = "CERTIFICATE" then
    if KeyKind.find? values = some .factoring then Der.firstString? values else none
  else none

/-- The octets of the public key on a curve in an armoured file. -/
def curveKey? (pem : Pem) (values : List Der.Value) : Option Bytes :=
  if pem.label = "PUBLIC KEY" ∨ pem.label = "CERTIFICATE" then
    if KeyKind.find? values = some .curve then Der.firstString? values else none
  else none

/-- The octets of the key in an armoured file that fits a name of an algorithm. -/
def fileKey? (algorithm : Text) (file : Bytes) : Option Bytes := do
  let pem ← Pem.ofBytes? file
  let values ← Der.ofBytes? pem.content
  if Text.startsWith "ES" algorithm then curveKey? pem values else factoringKey? pem values

structure Verifier where
  algorithm : Algorithm
  /-- The secret or the encoded public key. -/
  key : Bytes
  leeway : UInt64

def Verifier.ofConfig (files : Files) (config : AuthConfig) : Except Error Verifier :=
  match Algorithm.ofName? config.algorithm with
  | none => .error (.config ("unsupported JWT algorithm '" ++ config.algorithm ++ "'"))
  | some algorithm =>
    if config.isKeyed then .ok ⟨algorithm, Utf8.encode config.secret, config.leeway⟩
    else
      match config.publicKeyPath with
      | none => .error (.config "auth.public_key_path is required")
      | some path =>
        match files.read path with
        | .error reason =>
          .error (.config ("Failed to read JWT public key '" ++ path ++ "': " ++ reason))
        | .ok file =>
          match fileKey? config.algorithm file with
          | none => .error (.config ("Invalid JWT public key '" ++ path ++ "': InvalidKeyFormat"))
          | some key => .ok ⟨algorithm, key, config.leeway⟩

end UploadInbox.Token
