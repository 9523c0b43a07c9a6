import UploadInbox.Percent
import UploadInbox.Text.Decimal
import UploadInbox.Text.Quoted

/-!
# Settings of the broker

Where events are delivered, to which exchange and with which key. The address of the broker holds
user, password and virtual host in percent coding, so that its delimiters are its own.

Source: `BrokerConfig` with its defaults, `amqp_uri` and `redacted_uri`.
-/
namespace UploadInbox

structure BrokerConfig where
  host : Text
  port : UInt16
  user : Text
  password : Text
  vhost : Text
  exchange : Text
  routingKey : Text
  encrypted : Bool
  /-- The certificates that the broker's own is checked against. -/
  caCert : Option Text
  /-- Seconds that a confirmation may take. -/
  confirmTimeout : UInt64
  deriving DecidableEq

namespace BrokerConfig

def standardPort : UInt16 := 5672

def standardVhost : Text := "/"

def standardConfirmTimeout : UInt64 := 30

/-- The address of the broker with a given text for the password. -/
def address (config : BrokerConfig) (password : Text) : Text :=
  (if config.encrypted then "amqps" else "amqp" : Text) ++ "://" ++ Percent.encode config.user
    ++ ':' :: password ++ '@' :: config.host ++ ':' :: Decimal.ofNat config.port.toNat
    ++ '/' :: Percent.encode config.vhost

def uri (config : BrokerConfig) : Text := config.address (Percent.encode config.password)

/-- The address of the broker without the password. -/
def redactedUri (config : BrokerConfig) : Text := config.address "***"

/-- The settings as diagnostics show them: without the password. -/
def shown (config : BrokerConfig) : Text :=
  "BrokerConfig \x7b uri: " ++ Quoted.text config.redactedUri
    ++ ", exchange: " ++ Quoted.text config.exchange
    ++ ", routing_key: " ++ Quoted.text config.routingKey
    ++ ", ca_cert: " ++ Quoted.option config.caCert
    ++ ", confirm_timeout: " ++ Decimal.ofNat config.confirmTimeout.toNat ++ " \x7d"

end BrokerConfig
end UploadInbox
