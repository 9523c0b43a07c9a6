import UploadInbox.Text.Decimal
import UploadInbox.Text.Quoted

/-!
# Settings of the authentication

How tokens are verified: the algorithm, its secret or the file of its public key, and by how much
clocks may differ.

Source: `JwtConfig` with its defaults and `is_hmac`.
-/
namespace UploadInbox

structure AuthConfig where
  enabled : Bool
  algorithm : Text
  secret : Text
  publicKeyPath : Option Text
  /-- Seconds by which clocks may differ. -/
  leeway : UInt64
  deriving DecidableEq

namespace AuthConfig

/-- The settings of an empty section. -/
def standard : AuthConfig := ⟨true, "RS256", [], none, 0⟩

/-- Whether tokens are verified with a shared secret. -/
def isKeyed (config : AuthConfig) : Bool :=
  config.algorithm = "HS256" || config.algorithm = "HS384" || config.algorithm = "HS512"

/-- The settings as diagnostics show them: without the secret. -/
def shown (config : AuthConfig) : Text :=
  "JwtConfig \x7b enabled: " ++ (if config.enabled then "true" else "false" : Text)
    ++ ", algorithm: " ++ Quoted.text config.algorithm
    ++ ", public_key_path: " ++ Quoted.option config.publicKeyPath
    ++ ", leeway: " ++ Decimal.ofNat config.leeway.toNat ++ " \x7d"

end AuthConfig
end UploadInbox
