import UploadInbox.Command.Startup
import UploadInbox.Proofs.Endpoint

/-!
# Settings that the service starts with

Settings that were validated name all that the authentication needs, but not every address of the
store that passes is one of an endpoint: validation looks at its scheme alone. With such an address
the service cannot be made, whatever the files hold. With any other, only a file that cannot be used
keeps it from being made, and where all can be used and the broker answers, it starts.
-/
namespace UploadInbox

/-! ## What files hold -/

namespace Files

/-- A file can be read and holds a key for an algorithm. -/
def HoldsKey (files : Files) (algorithm path : Text) : Prop :=
  ∃ file key, files.read path = .ok file ∧ Token.fileKey? algorithm file = some key

/-- A file can be read and holds certificates. -/
def HoldsCertificates (files : Files) (path : Text) : Prop :=
  ∃ file first others, files.read path = .ok file ∧
    Certificate.all? file = some (first :: others)

end Files

namespace Certificate

variable {files : Files} {path : Text}

/-- The first of all certificates is the first one. -/
theorem first?_of_all? {file first : Bytes} {others : List Bytes}
    (all : all? file = some (first :: others)) : first? file = some first := by
  unfold all? at all
  unfold first?
  cases fuel : (lines file).length with
  | zero =>
    rw [fuel, allAmong?] at all
    cases all
  | succ n =>
    rw [fuel, allAmong?, fuel] at all
    split at all
    next octets rest found =>
      obtain ⟨others, -, same⟩ := Option.map_eq_some_iff.mp all
      cases same
      rfl
    next => cases all
    next => cases all

theorem firstOfBundle_of_holds (holds : files.HoldsCertificates path) :
    ∃ octets, firstOfBundle files path = .ok octets := by
  obtain ⟨file, first, others, read, all⟩ := holds
  refine ⟨first, ?_⟩
  rw [firstOfBundle, readBundle, read]
  simp only [first?_of_all? all]

theorem bundle_of_holds (holds : files.HoldsCertificates path) :
    ∃ octets, bundle files path = .ok octets := by
  obtain ⟨file, first, others, read, all⟩ := holds
  refine ⟨first :: others, ?_⟩
  rw [bundle, readBundle, read]
  simp only [all]

end Certificate

/-! ## What validation promises of the authentication -/

/-- The settings of the authentication name an algorithm of tokens and what its keys are made of. -/
structure AuthConfig.Equipped (auth : AuthConfig) : Prop where
  supported : ∃ algorithm, Token.Algorithm.ofName? auth.algorithm = some algorithm
  secret : auth.isKeyed = true → auth.secret ≠ []
  keyFile : auth.isKeyed = false → ∃ path, auth.publicKeyPath = some path

namespace Config

variable {config : Config}

theorem authFault?_of_validate (valid : config.validate = .ok ()) :
    authFault? config.auth = none := by
  unfold validate at valid
  split at valid
  next => cases valid
  next sound => exact (Option.or_eq_none_iff.mp sound).2

theorem ofName?_of_supported {name : Text} (supported : name ∈ supportedAlgorithms) :
    ∃ algorithm, Token.Algorithm.ofName? name = some algorithm := by
  have every : ∀ name ∈ supportedAlgorithms, (Token.Algorithm.ofName? name).isSome = true := by
    decide
  exact Option.isSome_iff_exists.mp (every name supported)

/-- Authentication that was validated, and is not turned off, has all that it needs. -/
theorem equipped_of_validate (valid : config.validate = .ok ())
    (enabled : config.auth.enabled = true) : config.auth.Equipped := by
  have sound := authFault?_of_validate valid
  simp only [authFault?, enabled, Bool.not_true, Bool.false_eq_true, if_false] at sound
  split at sound
  next => cases sound
  next known =>
    split at sound
    next => cases sound
    next secret =>
      split at sound
      next => cases sound
      next keyFile =>
        refine ⟨ofName?_of_supported (by simpa using known), ?_, ?_⟩
        · intro keyed empty
          exact secret (by simp [keyed, empty])
        · intro unkeyed
          exact Option.ne_none_iff_exists'.mp (by simpa [unkeyed] using keyFile)

end Config

/-! ## The parts of the service -/

theorem Token.Verifier.ofConfig_of_equipped {files : Files} {auth : AuthConfig}
    (equipped : auth.Equipped)
    (keys : auth.isKeyed = false → ∀ path, auth.publicKeyPath = some path →
      files.HoldsKey auth.algorithm path) :
    ∃ verifier, Token.Verifier.ofConfig files auth = .ok verifier := by
  obtain ⟨algorithm, known⟩ := equipped.supported
  simp only [Token.Verifier.ofConfig, known]
  cases keyed : auth.isKeyed with
  | true => exact ⟨_, rfl⟩
  | false =>
    obtain ⟨path, named⟩ := equipped.keyFile keyed
    obtain ⟨file, key, read, held⟩ := keys keyed path named
    simp only [named, read, held]
    exact ⟨_, rfl⟩

theorem Authenticator.ofConfig_of_valid {files : Files} {config : Config}
    (valid : config.validate = .ok ()) (now : UInt64)
    (keys : config.auth.enabled = true → config.auth.isKeyed = false →
      ∀ path, config.auth.publicKeyPath = some path →
        files.HoldsKey config.auth.algorithm path) :
    ∃ authenticate, Authenticator.ofConfig files config.auth now = .ok authenticate := by
  unfold Authenticator.ofConfig
  split
  next enabled =>
    have equipped := Config.equipped_of_validate valid enabled
    obtain ⟨verifier, made⟩ := Token.Verifier.ofConfig_of_equipped equipped (keys enabled)
    exact ⟨_, by rw [made]; rfl⟩
  next => exact ⟨_, rfl⟩

section Store

variable {files : Files} {backend : BackendConfig} {endpoint : Endpoint}

theorem Lookup.ofConfig_of_located (located : Endpoint.ofUrl backend.url = .ok endpoint)
    (certificates : ∀ path, backend.caCert = some path → files.HoldsCertificates path) :
    ∃ lookup, Lookup.ofConfig files backend = .ok lookup := by
  simp only [Lookup.ofConfig, located]
  cases named : backend.caCert with
  | none => exact ⟨_, rfl⟩
  | some path =>
    obtain ⟨octets, read⟩ := Certificate.firstOfBundle_of_holds (certificates path named)
    simp only [read]
    exact ⟨_, rfl⟩

theorem Inbox.ofConfig_of_located (located : Endpoint.ofUrl backend.url = .ok endpoint)
    (certificates : ∀ path, backend.caCert = some path → files.HoldsCertificates path)
    (authenticate : Authenticator) (facts : FactSource) (sink : EventSink) :
    ∃ inbox, Inbox.ofConfig files backend authenticate facts sink = .ok inbox := by
  simp only [Inbox.ofConfig, located]
  cases named : backend.caCert with
  | none => exact ⟨_, rfl⟩
  | some path =>
    obtain ⟨octets, read⟩ := Certificate.bundle_of_holds (certificates path named)
    simp only [Inbox.certificatesOf, read]
    exact ⟨_, rfl⟩

end Store

/-- Nothing in the settings themselves keeps a part of the service from being made: where one is not
made, it is for a file that they name and that cannot be used. -/
structure Config.Startable (config : Config) : Prop where
  located : ∃ endpoint, Endpoint.ofUrl config.backend.url = .ok endpoint
  authenticator : ∀ (files : Files) (now : UInt64) (e : Error),
    Authenticator.ofConfig files config.auth now = .error e →
      ∃ path, config.auth.publicKeyPath = some path ∧
        ¬ files.HoldsKey config.auth.algorithm path
  lookup : ∀ (files : Files) (e : Error), Lookup.ofConfig files config.backend = .error e →
    ∃ path, config.backend.caCert = some path ∧ ¬ files.HoldsCertificates path
  inbox : ∀ (files : Files) (authenticate : Authenticator) (facts : FactSource)
    (sink : EventSink) (e : Error),
    Inbox.ofConfig files config.backend authenticate facts sink = .error e →
      ∃ path, config.backend.caCert = some path ∧ ¬ files.HoldsCertificates path

/-- What would be made if the files that are named could be used fails for one that cannot. -/
theorem Files.exists_unusable {α : Type} {made : Except Error α} {named : Option Text}
    {holds : Text → Prop} {e : Error}
    (success : (∀ path, named = some path → holds path) → ∃ a, made = .ok a)
    (failed : made = .error e) : ∃ path, named = some path ∧ ¬ holds path := by
  by_contra usable
  have all_hold : ∀ path, named = some path → holds path := by
    intro path is_named
    by_contra unusable
    exact usable ⟨path, is_named, unusable⟩
  obtain ⟨a, done⟩ := success all_hold
  rw [done] at failed
  cases failed

namespace Config

variable {config : Config}

theorem startable_of_located {endpoint : Endpoint} (valid : config.validate = .ok ())
    (located : Endpoint.ofUrl config.backend.url = .ok endpoint) : config.Startable := by
  constructor
  case located => exact ⟨endpoint, located⟩
  case authenticator =>
    intro files now e failed
    refine Files.exists_unusable (fun keys => ?_) failed
    exact Authenticator.ofConfig_of_valid valid now fun _ _ => keys
  case lookup =>
    intro files e failed
    exact Files.exists_unusable (Lookup.ofConfig_of_located located) failed
  case inbox =>
    intro files authenticate facts sink e failed
    refine Files.exists_unusable (fun certificates => ?_) failed
    exact Inbox.ofConfig_of_located located certificates authenticate facts sink

end Config

/-! ## The start -/

namespace Command

variable {s : Surroundings} {config : Config} {options : Options}

/-- Surroundings in which every file that the settings name can be used, and in which the broker
answers where it is asked for a connection. -/
structure Surroundings.Serve (s : Surroundings) (config : Config) (daemon : Bool) : Prop where
  key : config.auth.enabled = true → config.auth.isKeyed = false →
    ∀ path, config.auth.publicKeyPath = some path → s.files.HoldsKey config.auth.algorithm path
  certificates : ∀ path, config.backend.caCert = some path → s.files.HoldsCertificates path
  listener : ∀ tls, config.server.tls = some tls → Start.listenerFault? s.files tls = none
  broker : daemon = true ∨
    Start.carryOn s (Broker.Delivery.connect s.files config.broker) = .ok ()

namespace Start

/-- The settings are only tested, and have passed the test once they are loaded. -/
theorem ending_test (loaded : Config.load s.files s.environment options.config = .ok config) :
    (ofOptions s { options with test := true }).ending = .tested := by
  simp only [ofOptions, loaded, if_true]

theorem validate_of_load {files : Files} {env : Environment} {path : Text}
    (loaded : Config.load files env path = .ok config) : config.validate = .ok () := by
  unfold Config.load at loaded
  split at loaded
  next => cases loaded
  next =>
    split at loaded
    next => cases loaded
    next valid =>
      cases loaded
      exact valid

/-- In surroundings that serve, a start comes as far as the store. -/
theorem exists_withBroker (loaded : Config.load s.files s.environment options.config = .ok config)
    (serves : s.Serve config options.daemon) :
    ∃ authenticate records,
      ofOptions s { options with test := false } = withBroker s config authenticate records := by
  obtain ⟨authenticate, made⟩ :=
    Authenticator.ofConfig_of_valid (validate_of_load loaded) s.now serves.key
  refine ⟨authenticate, ?_⟩
  simp only [ofOptions, loaded, withConfig, made, Bool.false_eq_true, if_false]
  split
  next => exact ⟨_, rfl⟩
  next foreground =>
    have connected := serves.broker.resolve_left foreground
    simp only [connected]
    exact ⟨_, rfl⟩

theorem ending_withBroker_of_unlocated {e : Error}
    (unlocated : Endpoint.ofUrl config.backend.url = .error e) (authenticate : Authenticator)
    (records : List LogRecord) :
    (withBroker s config authenticate records).ending = .failed (.unmade e) := by
  simp only [withBroker, Lookup.ofConfig, unlocated]

theorem ending_withBroker_of_located {endpoint : Endpoint}
    (located : Endpoint.ofUrl config.backend.url = .ok endpoint)
    (certificates : ∀ path, config.backend.caCert = some path → s.files.HoldsCertificates path)
    (listener : ∀ tls, config.server.tls = some tls → listenerFault? s.files tls = none)
    (authenticate : Authenticator) (records : List LogRecord) :
    ∃ inbox, (withBroker s config authenticate records).ending = .ready config inbox := by
  obtain ⟨lookup, looking⟩ := Lookup.ofConfig_of_located located certificates
  obtain ⟨inbox, made⟩ := Inbox.ofConfig_of_located located certificates authenticate
    (facts s lookup) (sink s config.broker)
  have sound : config.server.tls.bind (listenerFault? s.files) = none :=
    Option.bind_eq_none_iff.mpr listener
  refine ⟨inbox, ?_⟩
  simp only [withBroker, looking, made, sound]

/-- In surroundings that serve, the start succeeds exactly when the address of the store is one of
an endpoint. -/
theorem ready_iff_written (loaded : Config.load s.files s.environment options.config = .ok config)
    (serves : s.Serve config options.daemon) :
    (∃ inbox, (ofOptions s { options with test := false }).ending = .ready config inbox) ↔
      ∃ endpoint, Endpoint.Written config.backend.url endpoint := by
  obtain ⟨authenticate, records, start⟩ := exists_withBroker loaded serves
  rw [start]
  cases located : Endpoint.ofUrl config.backend.url with
  | error e =>
    have unwritten : ¬ ∃ endpoint, Endpoint.Written config.backend.url endpoint := by
      rintro ⟨endpoint, written⟩
      rw [Endpoint.ofUrl_eq_ok_iff.mpr written] at located
      cases located
    refine iff_of_false ?_ unwritten
    rintro ⟨inbox, ready⟩
    rw [ending_withBroker_of_unlocated located] at ready
    cases ready
  | ok endpoint =>
    exact iff_of_true (ending_withBroker_of_located located serves.certificates serves.listener
      authenticate records) ⟨endpoint, Endpoint.ofUrl_eq_ok_iff.mp located⟩

end Start
end Command

/-- Settings that were validated have all that their authentication needs. Whether nothing but their
files can keep the service from being made, and whether it starts where a test of the settings is
passed, depends on the address of the store alone: it must be one of an endpoint. -/
theorem Config.startable_iff_written {config : Config} (valid : config.validate = .ok ()) :
    (config.auth.enabled = true → config.auth.Equipped) ∧
    (config.Startable ↔ ∃ endpoint, Endpoint.Written config.backend.url endpoint) ∧
    ∀ (s : Command.Surroundings) (options : Command.Options),
      Config.load s.files s.environment options.config = .ok config →
      s.Serve config options.daemon →
      (Command.Start.ofOptions s { options with test := true }).ending = .tested ∧
      ((∃ inbox, (Command.Start.ofOptions s { options with test := false }).ending =
          .ready config inbox) ↔
        ∃ endpoint, Endpoint.Written config.backend.url endpoint) := by
  refine ⟨equipped_of_validate valid, ?_, ?_⟩
  · constructor
    · intro startable
      obtain ⟨endpoint, located⟩ := startable.located
      exact ⟨endpoint, Endpoint.ofUrl_eq_ok_iff.mp located⟩
    · rintro ⟨endpoint, written⟩
      exact startable_of_located valid (Endpoint.ofUrl_eq_ok_iff.mpr written)
  · intro s options loaded serves
    exact ⟨Command.Start.ending_test loaded, Command.Start.ready_iff_written loaded serves⟩

/-! ## Two addresses -/

/-- Settings for a store at an address, all else being in order. -/
def Config.storedAt (url : Text) : Config where
  server := .standard
  backend := ⟨url, "access", "secret", "inbox", "us-east-1", none, 30⟩
  broker := ⟨"mq", 5672, "guest", "guest", "/", "sda", "inbox", false, none, 30⟩
  auth := ⟨true, "HS256", "secret", none, 0⟩

namespace Command

/-- Where the service is started with one file, in which settings for a store at an address are
written. -/
def Surroundings.storedAt (url : Text) : Surroundings where
  files := .ofList [("config.yaml", Utf8.encode (
    "backend: \x7burl: \"" ++ url ++ "\",\n"
      ++ "  access_key: access, secret_key: secret, bucket: inbox\x7d\n"
      ++ "broker: \x7bhost: mq, user: guest, password: guest,\n"
      ++ "  exchange: sda, routing_key: inbox\x7d\n"
      ++ "auth: \x7balgorithm: HS256, secret: secret\x7d\n"))]
  environment := .ofList []
  now := 0
  broker := fun _ => .silence
  store := fun _ => .unreachable []

/-- A daemon is started with the settings of that file. -/
def Options.daemonStored : Options := ⟨"config.yaml", true, false, false⟩

theorem Surroundings.serve_storedAt (s : Surroundings) (url : Text) :
    s.Serve (.storedAt url) true where
  key := by intro _ unkeyed; cases unkeyed
  certificates := by intro _ named; cases named
  listener := by intro _ named; cases named
  broker := .inl rfl

theorem Start.load_storedAt :
    ∀ url ∈ (["http://store:9000/s3", "http://store:99999"] : List Text),
      Config.load (Surroundings.storedAt url).files (Surroundings.storedAt url).environment
        Options.daemonStored.config = .ok (.storedAt url) := by
  decide +kernel

end Command

/-- Settings that keep to the written form can be started, and a daemon starts with them. -/
theorem Config.startable_storedAt :
    (storedAt "http://store:9000/s3").validate = .ok () ∧
    (storedAt "http://store:9000/s3").Startable ∧
    ∃ inbox, (Command.Start.ofOptions (.storedAt "http://store:9000/s3") .daemonStored).ending =
      .ready (storedAt "http://store:9000/s3") inbox := by
  have valid : (storedAt "http://store:9000/s3").validate = .ok () := by decide
  have written : Endpoint.Written "http://store:9000/s3" ⟨"store", 9000, false⟩ :=
    Endpoint.ofUrl_eq_ok_iff.mp (by decide)
  obtain ⟨-, startable, starts⟩ := startable_iff_written valid
  have started := starts (.storedAt "http://store:9000/s3") .daemonStored
    (Command.Start.load_storedAt _ (by decide)) (Command.Surroundings.serve_storedAt _ _)
  exact ⟨valid, startable.mpr ⟨_, written⟩, started.2.mpr ⟨_, written⟩⟩

/-- A port of more than sixteen bits passes the validation and the test of the settings, and a
daemon does not start with it. -/
theorem Config.not_startable_storedAt :
    (storedAt "http://store:99999").validate = .ok () ∧
    ¬ (storedAt "http://store:99999").Startable ∧
    (Command.Start.ofOptions (.storedAt "http://store:99999")
      { Command.Options.daemonStored with test := true }).ending = .tested ∧
    (Command.Start.ofOptions (.storedAt "http://store:99999") .daemonStored).ending =
      .failed (.unmade (.config "backend url 'http://store:99999' has an invalid port")) := by
  have unlocated : Endpoint.ofUrl (storedAt "http://store:99999").backend.url =
      .error (.config "backend url 'http://store:99999' has an invalid port") := by decide
  have loaded := Command.Start.load_storedAt "http://store:99999" (by decide)
  refine ⟨by decide, ?_, Command.Start.ending_test loaded, ?_⟩
  · intro startable
    obtain ⟨endpoint, located⟩ := startable.located
    rw [unlocated] at located
    cases located
  · obtain ⟨authenticate, records, start⟩ :=
      Command.Start.exists_withBroker loaded (Command.Surroundings.serve_storedAt _ _)
    have ending := Command.Start.ending_withBroker_of_unlocated
      (s := .storedAt "http://store:99999") unlocated authenticate records
    rw [← start] at ending
    exact ending

end UploadInbox
