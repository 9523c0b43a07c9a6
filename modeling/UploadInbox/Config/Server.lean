import UploadInbox.Text.Decimal

/-!
# Settings of the listener

Where callers connect, and with how many threads they are served.

Source: `ServerConfig` with its defaults and `listen_addr`, and `ListenerTlsConfig`.
-/
namespace UploadInbox

structure ListenerTls where
  certPath : Text
  keyPath : Text
  deriving DecidableEq

structure ServerConfig where
  address : Text
  port : UInt16
  threads : UInt64
  /-- Connections are encrypted if there is a certificate. -/
  tls : Option ListenerTls
  deriving DecidableEq

namespace ServerConfig

/-- The settings of an empty section. -/
def standard : ServerConfig := ⟨"0.0.0.0", 8000, 4, none⟩

def listenAddress (config : ServerConfig) : Text :=
  config.address ++ ':' :: Decimal.ofNat config.port.toNat

end ServerConfig
end UploadInbox
