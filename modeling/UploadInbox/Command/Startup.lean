import UploadInbox.Broker.Delivery
import UploadInbox.Command.Arguments
import UploadInbox.Config.Basic
import UploadInbox.Inbox.Basic
import UploadInbox.Lookup

/-!
# Startup

What a call leads to before the first request is served. The configuration comes first, then the
way in which callers are authenticated, then the broker, to which a daemon connects only when it has
something to announce, then the store, and last the listener. The first step that fails ends it.

Source: `main`, from the configuration to the listener.
-/
namespace UploadInbox.Command

structure Surroundings where
  files : Files
  environment : Environment
  /-- Seconds since the beginning of 1970. -/
  now : UInt64
  /-- What the broker answers. -/
  broker : Broker.Ask → Broker.Answer
  /-- What the store answers to requests for listings. -/
  store : ListingRequest → StoreReply

inductive StartFault where
  /-- The configuration of a path cannot be used. -/
  | unloaded (path : Text) (e : Error)
  | unconnected (e : Error)
  /-- One of the parts of the service cannot be made. -/
  | unmade (e : Error)
  /-- The listener cannot encrypt. -/
  | unencrypted (reason : Text)
  deriving DecidableEq, Repr

namespace StartFault

/-- A text on a line of its own, and under it its cause, whose lines are set in. -/
def caused (t : Text) (e : Error) : Text :=
  t ++ "\n\nCaused by:\n" ++
    Text.join "\n" ((Text.fields '\n' e.message).map fun line => "    " ++ line)

def message (fault : StartFault) : Text :=
  "Error: " ++
    (match fault with
      | unloaded path e => caused ("Failed to load configuration from " ++ path) e
      | unconnected e => caused "Failed to connect to message broker" e
      | unmade e => e.message
      | unencrypted reason => "Failed to configure TLS listener: " ++ reason) ++ ['\n']

end StartFault

inductive Ending where
  /-- The configuration was only tested. -/
  | tested
  | failed (fault : StartFault)
  /-- Requests can be served. -/
  | ready (config : Config) (inbox : Inbox)

/-- A start: how it ends, and what is recorded until then. -/
structure Start where
  ending : Ending
  records : List LogRecord

namespace Start

def logTarget : Text := "s3inbox"

def loadedRecord (path : Text) (config : Config) : LogRecord :=
  ⟨.info, logTarget, "Configuration loaded successfully",
    [("config_file", .text path), ("server_address", .text config.server.address),
      ("server_port", .number config.server.port.toNat),
      ("backend", .text config.backend.shown), ("broker", .text config.broker.shown),
      ("auth_enabled", .flag config.auth.enabled)]⟩

def testedRecord : LogRecord := ⟨.info, logTarget, "Configuration test passed", []⟩

def daemonRecord (config : BrokerConfig) : LogRecord :=
  ⟨.info, logTarget, "Daemon mode: broker connection opens on first publish",
    [("broker", .text config.redactedUri)]⟩

def connectingRecord (config : BrokerConfig) : LogRecord :=
  ⟨.info, "s3inbox::messenger", "Connecting to message broker",
    [("broker", .text config.redactedUri)]⟩

def servingRecord (config : ServerConfig) : LogRecord :=
  ⟨.info, logTarget, "Starting s3inbox",
    [("address", .text config.listenAddress), ("tls", .flag config.tls.isSome),
      ("threads", .number config.threads.toNat)]⟩

def carryOn (s : Surroundings) (delivery : Broker.Delivery) : Except Error Unit :=
  (Broker.Delivery.converse (fun _ ask => (s.broker ask, ())) Broker.Delivery.questions delivery
    ()).1.result

/-- Events announced over a link of their own. -/
def sink (s : Surroundings) (config : BrokerConfig) : EventSink := fun event =>
  carryOn s (Broker.Delivery.start s.files config none (Broker.Message.ofEvent config [] event))

def facts (s : Surroundings) (lookup : Lookup) : FactSource := fun key =>
  Lookup.ofReply key (s.store (lookup.request key (Civil.ofSeconds s.now.toNat)))

/-- Why the listener cannot encrypt with the files of its certificate. -/
def listenerFault? (files : Files) (tls : ListenerTls) : Option Text :=
  match files.read tls.keyPath, files.read tls.certPath with
  | .error reason, _ | .ok _, .error reason => some reason
  | .ok key, .ok certificate =>
    if (Pem.ofBytes? key).isNone then some "not a key"
    else if (Certificate.first? certificate).isNone then some "not a certificate"
    else none

/-- The start after the broker is connected, or need not be. -/
def withBroker (s : Surroundings) (config : Config) (authenticate : Authenticator)
    (records : List LogRecord) : Start :=
  match Lookup.ofConfig s.files config.backend with
  | .error e => ⟨.failed (.unmade e), records⟩
  | .ok lookup =>
    match Inbox.ofConfig s.files config.backend authenticate (facts s lookup)
        (sink s config.broker) with
    | .error e => ⟨.failed (.unmade e), records⟩
    | .ok inbox =>
      match config.server.tls.bind (listenerFault? s.files) with
      | some reason => ⟨.failed (.unencrypted reason), records⟩
      | none => ⟨.ready config inbox, records ++ [servingRecord config.server]⟩

def withConfig (s : Surroundings) (config : Config) (daemon : Bool) (records : List LogRecord) :
    Start :=
  let records := records ++ [Authenticator.startRecord config.auth]
  match Authenticator.ofConfig s.files config.auth s.now with
  | .error e => ⟨.failed (.unmade e), records⟩
  | .ok authenticate =>
    if daemon then
      withBroker s config authenticate (records ++ [daemonRecord config.broker])
    else
      let records := records ++ [connectingRecord config.broker]
      match carryOn s (Broker.Delivery.connect s.files config.broker) with
      | .error e => ⟨.failed (.unconnected e), records⟩
      | .ok () => withBroker s config authenticate records

def ofOptions (s : Surroundings) (options : Options) : Start :=
  match Config.load s.files s.environment options.config with
  | .error e => ⟨.failed (.unloaded options.config e), []⟩
  | .ok config =>
    let records := [loadedRecord options.config config]
    if options.test then ⟨.tested, records ++ [testedRecord]⟩
    else withConfig s config options.daemon records

end Start
end UploadInbox.Command
