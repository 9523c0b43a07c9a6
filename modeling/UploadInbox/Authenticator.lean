import UploadInbox.Http.Request
import UploadInbox.Log
import UploadInbox.Namespace
import UploadInbox.Token.Extraction
import UploadInbox.Token.Verification

/-!
# Authentication

Whether a caller may act in the namespace that a request addresses: the token in the request must
be valid and issued to the user of that name.

Source: `AllowAll`, `authenticate` of `JwtAuthenticator` (`ofVerifier`) and `build_authenticator`
(`ofConfig`).
-/
namespace UploadInbox

/-- A decision on whether a request comes from whom it must. -/
abbrev Authenticator := Request → Except Error Unit

namespace Authenticator

def allowAll : Authenticator := fun _ => .ok ()

/-- Demands a token of the user whose namespace is addressed. -/
def ofVerifier (verifier : Token.Verifier) (now : UInt64) : Authenticator := fun request =>
  match Namespace.user request.path with
  | .error e => .error e
  | .ok user =>
    match Token.extract? request.headers.lastVisible with
    | none => .error (.authenticationFailed "missing token")
    | some token =>
      match verifier.verify now token with
      | .error fault => .error (.authenticationFailed ("invalid token: " ++ fault.message))
      | .ok claims =>
        if claims.subject = user then .ok ()
        else
          .error (.authenticationFailed ("token subject '" ++ claims.subject
            ++ "' does not own namespace '" ++ user ++ "'"))

/-- The authenticator that the settings ask for. -/
def ofConfig (files : Files) (config : AuthConfig) (now : UInt64) : Except Error Authenticator :=
  if config.enabled then (Token.Verifier.ofConfig files config).map (ofVerifier · now)
  else .ok allowAll

def logTarget : Text := "s3inbox::auth"

def startRecord (config : AuthConfig) : LogRecord :=
  if config.enabled then
    ⟨.info, logTarget, "JWT authentication enabled", [("algorithm", .text config.algorithm)]⟩
  else
    ⟨.warn, logTarget, "Authentication is disabled: every allowed request is forwarded", []⟩

end Authenticator
end UploadInbox
