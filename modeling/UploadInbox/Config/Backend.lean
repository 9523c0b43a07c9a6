import UploadInbox.Signing.Authorization

/-!
# Settings of the store

Where the shared bucket is and what requests to it are signed with.

Source: `BackendConfig` with its defaults and `from_backend_config` (`credentials`).
-/
namespace UploadInbox

structure BackendConfig where
  url : Text
  accessKey : Text
  secretKey : Text
  /-- The bucket that holds the namespaces of all users. -/
  bucket : Text
  region : Text
  /-- The certificates that the store's own is checked against. -/
  caCert : Option Text
  /-- Seconds that connecting, reading and writing may each take. -/
  timeout : UInt64
  deriving DecidableEq

namespace BackendConfig

def standardRegion : Text := "us-east-1"

def standardTimeout : UInt64 := 30

def credentials (config : BackendConfig) : Credentials :=
  ⟨config.accessKey, config.secretKey, config.region⟩

/-- The settings as diagnostics show them: without the secret. -/
def shown (config : BackendConfig) : Text :=
  "BackendConfig \x7b url: " ++ Quoted.text config.url
    ++ ", access_key: " ++ Quoted.text config.accessKey
    ++ ", secret_key: \"<redacted>\", bucket: " ++ Quoted.text config.bucket
    ++ ", region: " ++ Quoted.text config.region
    ++ ", ca_cert: " ++ Quoted.option config.caCert
    ++ ", timeout: " ++ Decimal.ofNat config.timeout.toNat ++ " \x7d"

end BackendConfig
end UploadInbox
