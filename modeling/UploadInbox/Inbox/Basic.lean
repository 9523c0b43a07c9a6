import UploadInbox.Authenticator
import UploadInbox.Completion
import UploadInbox.Config.Backend
import UploadInbox.Crypto.Certificate
import UploadInbox.Endpoint
import UploadInbox.Log

/-!
# The inbox

What the service is made of: the store behind it, the way in which callers are authenticated, and
where finished uploads are looked up and announced.

Source: `InboxProxy` with `new` (`ofConfig`), and `upstream_peer` with `build_upstream_peer_config`
and `build_peer` (`peer`).
-/
namespace UploadInbox

structure Inbox where
  endpoint : Endpoint
  credentials : Credentials
  /-- The bucket that holds the namespaces of all users. -/
  bucket : Text
  /-- Seconds that each phase of an exchange with the store may take. -/
  timeout : UInt64
  /-- The certificates that the store's own is checked against. -/
  certificates : Option (List Bytes)
  authenticate : Authenticator
  facts : FactSource
  sink : EventSink

/-- The other end of a connection to the store. -/
structure Peer where
  /-- Host and number. -/
  address : Text
  encrypted : Bool
  /-- The name that an encrypted connection asks for. -/
  serverName : Text
  connectTimeout : UInt64
  readTimeout : UInt64
  writeTimeout : UInt64
  certificates : Option (List Bytes)
  deriving DecidableEq

namespace Inbox

def logTarget : Text := "s3inbox::proxy"

/-- The certificates that a bundle holds, if one is named. -/
def certificatesOf (files : Files) (path : Option Text) :
    Except Error (Option (List Bytes)) :=
  match path with
  | none => .ok none
  | some path => (Certificate.bundle files path).map some

/-- The inbox before a store with the given settings. -/
def ofConfig (files : Files) (config : BackendConfig) (authenticate : Authenticator)
    (facts : FactSource) (sink : EventSink) : Except Error Inbox :=
  match Endpoint.ofUrl config.url with
  | .error e => .error e
  | .ok endpoint =>
    match certificatesOf files config.caCert with
    | .error e => .error e
    | .ok certificates =>
      .ok ⟨endpoint, config.credentials, config.bucket, config.timeout, certificates,
        authenticate, facts, sink⟩

/-- The peer that requests are passed on to: one for all of them. -/
def peer (inbox : Inbox) : Peer where
  address := inbox.endpoint.host ++ ':' :: Decimal.ofNat inbox.endpoint.port.toNat
  encrypted := inbox.endpoint.encrypted
  serverName := inbox.endpoint.host
  connectTimeout := inbox.timeout
  readTimeout := inbox.timeout
  writeTimeout := inbox.timeout
  certificates := inbox.certificates

def peerRecord (inbox : Inbox) : LogRecord :=
  ⟨.debug, logTarget, "Configured backend peer",
    [("endpoint", .text inbox.endpoint.authority),
      ("timeout_seconds", .number inbox.timeout.toNat)]⟩

end Inbox
end UploadInbox
