import UploadInbox.Config.Auth
import UploadInbox.Config.Backend
import UploadInbox.Config.Broker
import UploadInbox.Config.Environment
import UploadInbox.Config.Server
import UploadInbox.Files
import UploadInbox.Yaml.Typed

/-!
# Configuration

A configuration is read from a document after its references to the environment are replaced. The
sections on the listener and on authentication may be left out. Validation then looks at the values
themselves, section by section, and reports the first that cannot be right.

Source: `from_yaml_with_env` (`ofText`), `from_file`, `load` and `validate` of `Config`.
-/
namespace UploadInbox

structure Config where
  server : ServerConfig
  backend : BackendConfig
  broker : BrokerConfig
  auth : AuthConfig
  deriving DecidableEq

namespace Config

open Yaml (Node)
open Yaml.Node (required? withDefault? option?)

def listenerTls? (node : Node) : Option ListenerTls := do
  let members ← node.members?
  return ⟨← required? Node.text? "cert_path" members, ← required? Node.text? "key_path" members⟩

def server? (node : Node) : Option ServerConfig := do
  let members ← node.members?
  let standard := ServerConfig.standard
  return {
    address := ← withDefault? standard.address Node.text? "address" members
    port := ← withDefault? standard.port Node.uint16? "port" members
    threads := ← withDefault? standard.threads Node.uint64? "threads" members
    tls := ← withDefault? none (option? listenerTls?) "tls" members }

def backend? (node : Node) : Option BackendConfig := do
  let members ← node.members?
  return {
    url := ← required? Node.text? "url" members
    accessKey := ← required? Node.text? "access_key" members
    secretKey := ← required? Node.text? "secret_key" members
    bucket := ← required? Node.text? "bucket" members
    region := ← withDefault? BackendConfig.standardRegion Node.text? "region" members
    caCert := ← withDefault? none (option? Node.text?) "ca_cert" members
    timeout := ← withDefault? BackendConfig.standardTimeout Node.uint64? "timeout" members }

def broker? (node : Node) : Option BrokerConfig := do
  let members ← node.members?
  return {
    host := ← required? Node.text? "host" members
    port := ← withDefault? BrokerConfig.standardPort Node.uint16? "port" members
    user := ← required? Node.text? "user" members
    password := ← required? Node.text? "password" members
    vhost := ← withDefault? BrokerConfig.standardVhost Node.text? "vhost" members
    exchange := ← required? Node.text? "exchange" members
    routingKey := ← required? Node.text? "routing_key" members
    encrypted := ← withDefault? false Node.bool? "ssl" members
    caCert := ← withDefault? none (option? Node.text?) "ca_cert" members
    confirmTimeout :=
      ← withDefault? BrokerConfig.standardConfirmTimeout Node.uint64? "confirm_timeout" members }

def auth? (node : Node) : Option AuthConfig := do
  let members ← node.members?
  let standard := AuthConfig.standard
  return {
    enabled := ← withDefault? standard.enabled Node.bool? "enabled" members
    algorithm := ← withDefault? standard.algorithm Node.text? "algorithm" members
    secret := ← withDefault? standard.secret Node.text? "secret" members
    publicKeyPath := ← withDefault? none (option? Node.text?) "public_key_path" members
    leeway := ← withDefault? standard.leeway Node.uint64? "leeway" members }

def ofNode? (node : Node) : Option Config := do
  let members ← node.members?
  return {
    server := ← withDefault? .standard server? "server" members
    backend := ← required? backend? "backend" members
    broker := ← required? broker? "broker" members
    auth := ← withDefault? .standard auth? "auth" members }

/-- The error of a text that is not the document of a configuration. -/
def malformed : Error := .config "invalid document: not a configuration"

/-- The configuration of a text, its references to the environment replaced. -/
def ofText (env : Environment) (t : Text) : Except Error Config :=
  match env.substitute t with
  | .error e => .error e
  | .ok t =>
    match (Node.ofText? t).bind ofNode? with
    | some config => .ok config
    | none => .error malformed

def ofFile (files : Files) (env : Environment) (path : Text) : Except Error Config :=
  match files.readText path with
  | .error reason => .error (.config ("Failed to read config file: " ++ reason))
  | .ok t => ofText env t

def supportedAlgorithms : List Text :=
  ["HS256", "HS384", "HS512", "RS256", "RS384", "RS512", "ES256", "ES384"]

def paths (config : Config) : List Text :=
  config.auth.publicKeyPath.toList ++ config.backend.caCert.toList ++
    config.broker.caCert.toList ++
    (config.server.tls.map fun tls => [tls.certPath, tls.keyPath]).getD []

def serverFault? (server : ServerConfig) : Option Text :=
  if server.port = 0 then some "server.port must be > 0"
  else if server.threads = 0 then some "server.threads must be > 0"
  else none

def backendFault? (backend : BackendConfig) : Option Text :=
  if !Text.startsWith "http://" backend.url && !Text.startsWith "https://" backend.url then
    some ("backend.url '" ++ backend.url ++ "' must start with http:// or https://")
  else if backend.accessKey.isEmpty then some "backend.access_key cannot be empty"
  else if backend.secretKey.isEmpty then some "backend.secret_key cannot be empty"
  else if backend.bucket.isEmpty || backend.bucket.contains '/' then
    some ("backend.bucket '" ++ backend.bucket ++ "' must be a non-empty bucket name")
  else if backend.region.isEmpty then some "backend.region cannot be empty"
  else if backend.timeout = 0 then some "backend.timeout must be > 0 seconds"
  else none

def brokerFault? (broker : BrokerConfig) : Option Text :=
  if broker.host.isEmpty then some "broker.host cannot be empty"
  else if broker.port = 0 then some "broker.port must be > 0"
  else if broker.exchange.isEmpty then some "broker.exchange cannot be empty"
  else if broker.routingKey.isEmpty then some "broker.routing_key cannot be empty"
  else if broker.confirmTimeout = 0 then some "broker.confirm_timeout must be > 0 seconds"
  else none

def authFault? (auth : AuthConfig) : Option Text :=
  if !auth.enabled then none
  else if !supportedAlgorithms.contains auth.algorithm then
    some ("auth.algorithm '" ++ auth.algorithm ++ "' is not supported. Supported algorithms: "
      ++ Text.join ", " supportedAlgorithms)
  else if auth.isKeyed && auth.secret.isEmpty then
    some ("auth.secret cannot be empty when auth.algorithm is " ++ auth.algorithm)
  else if !auth.isKeyed && auth.publicKeyPath.isNone then
    some ("auth.public_key_path is required when auth.algorithm is " ++ auth.algorithm)
  else none

def fault? (config : Config) : Option Text :=
  (((serverFault? config.server).or (backendFault? config.backend)).or
    (brokerFault? config.broker)).or (authFault? config.auth)

def validate (config : Config) : Except Error Unit :=
  match config.fault? with
  | some reason => .error (.config reason)
  | none => .ok ()

/-- The configuration of a file, if its values can be right. -/
def load (files : Files) (env : Environment) (path : Text) : Except Error Config :=
  match ofFile files env path with
  | .error e => .error e
  | .ok config =>
    match config.validate with
    | .error e => .error e
    | .ok () => .ok config

end Config
end UploadInbox
