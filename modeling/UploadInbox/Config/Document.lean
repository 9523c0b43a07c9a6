import UploadInbox.Config.Basic
import UploadInbox.Json.Basic

/-!
# Configurations as values

A configuration with all its sections and settings, those left out included as far as they have a
standard. Settings without a value are left out.

Source: the fields of `Config` and of its sections, under their written names.
-/
namespace UploadInbox

def ListenerTls.toJson (tls : ListenerTls) : Json :=
  .ofMembers [("cert_path", .string tls.certPath), ("key_path", .string tls.keyPath)]

def ServerConfig.toJson (config : ServerConfig) : Json := .ofPresent [
  ("address", some (.string config.address)),
  ("port", some (.natural config.port.toUInt64)),
  ("threads", some (.natural config.threads)),
  ("tls", config.tls.map ListenerTls.toJson)]

def BackendConfig.toJson (config : BackendConfig) : Json := .ofPresent [
  ("url", some (.string config.url)),
  ("access_key", some (.string config.accessKey)),
  ("secret_key", some (.string config.secretKey)),
  ("bucket", some (.string config.bucket)),
  ("region", some (.string config.region)),
  ("ca_cert", config.caCert.map Json.string),
  ("timeout", some (.natural config.timeout))]

def BrokerConfig.toJson (config : BrokerConfig) : Json := .ofPresent [
  ("host", some (.string config.host)),
  ("port", some (.natural config.port.toUInt64)),
  ("user", some (.string config.user)),
  ("password", some (.string config.password)),
  ("vhost", some (.string config.vhost)),
  ("exchange", some (.string config.exchange)),
  ("routing_key", some (.string config.routingKey)),
  ("ssl", some (.bool config.encrypted)),
  ("ca_cert", config.caCert.map Json.string),
  ("confirm_timeout", some (.natural config.confirmTimeout))]

def AuthConfig.toJson (config : AuthConfig) : Json := .ofPresent [
  ("enabled", some (.bool config.enabled)),
  ("algorithm", some (.string config.algorithm)),
  ("secret", some (.string config.secret)),
  ("public_key_path", config.publicKeyPath.map Json.string),
  ("leeway", some (.natural config.leeway))]

def Config.toJson (config : Config) : Json := .ofMembers [
  ("server", config.server.toJson),
  ("backend", config.backend.toJson),
  ("broker", config.broker.toJson),
  ("auth", config.auth.toJson)]

end UploadInbox
