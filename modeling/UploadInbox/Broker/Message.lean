import UploadInbox.Config.Broker
import UploadInbox.Event

/-!
# What the broker is sent

The login, the exchange that events go to, and the message that announces an event, as the protocol
has them.

Source: the address that `open_link` connects to, the exchange of `open_channel` and the properties
that `publish` gives a message.
-/
namespace UploadInbox.Broker

/-- How the service makes itself known to the broker, and where it goes there. -/
structure Login where
  user : Text
  password : Text
  vhost : Text
  encrypted : Bool
  deriving DecidableEq, Repr

namespace Login

/-- The user and the password of an address that names none. -/
def guest : Text := "guest"

/-- The login that the settings ask for. An address cannot tell an empty user or password from one
that is not given, nor a virtual host of dots from none. -/
def ofConfig (config : BrokerConfig) : Login where
  user := if config.user.isEmpty then guest else config.user
  password := if config.password.isEmpty then guest else config.password
  vhost := if config.vhost = "." ∨ config.vhost = ".." then [] else config.vhost
  encrypted := config.encrypted

def mechanism : Text := "PLAIN"

/-- What answers the broker's challenge: user and password, each after a character of value zero. -/
def response (login : Login) : Text :=
  Char.ofNat 0 :: login.user ++ Char.ofNat 0 :: login.password

end Login

/-- The exchange that events go to: one that routes by topic and outlives the broker's restarts. -/
structure Exchange where
  name : Text
  deriving DecidableEq, Repr

namespace Exchange

def kind : Text := "topic"

/-- The flags of its declaration, of which only the second is set: it is durable. -/
def flags : UInt8 := 2

end Exchange

structure Message where
  exchange : Text
  routingKey : Text
  correlationId : Text
  payload : Text
  deriving DecidableEq, Repr

namespace Message

def ofEvent (config : BrokerConfig) (correlationId : Text) (event : UploadEvent) : Message :=
  ⟨config.exchange, config.routingKey, correlationId, event.payload⟩

def contentType : Text := "application/json"

def contentEncoding : Text := "UTF-8"

/-- The mode of messages that need not outlive the broker. -/
def deliveryMode : UInt8 := 1

/-- The word that says which properties a message carries: type and coding of the content, the mode
and the correlation. -/
def propertyFlags : UInt16 := 0x8000 ||| 0x4000 ||| 0x1000 ||| 0x0400

/-- The flags of publishing, of which none is set. -/
def publishFlags : UInt8 := 0

end Message
end UploadInbox.Broker
