import UploadInbox.Text.Decimal

/-!
# Faults of a connection to the broker

Why the broker, or the connection to it, did not do what was asked: the connection is gone, the
broker closed it or a channel of it and said under which condition, or one of the two was not in a
state to be used.
-/
namespace UploadInbox.Broker

/-- The conditions under which a broker refuses or closes. -/
inductive Condition where
  | connectionForced | accessRefused | notFound | preconditionFailed | channelError | notAllowed
  | notImplemented
  deriving DecidableEq, Repr

namespace Condition

def number : Condition → UInt16
  | connectionForced => 320
  | accessRefused => 403
  | notFound => 404
  | preconditionFailed => 406
  | channelError => 504
  | notAllowed => 530
  | notImplemented => 540

def name : Condition → Text
  | connectionForced => "CONNECTION-FORCED"
  | accessRefused => "ACCESS-REFUSED"
  | notFound => "NOT-FOUND"
  | preconditionFailed => "PRECONDITION-FAILED"
  | channelError => "CHANNEL-ERROR"
  | notAllowed => "NOT-ALLOWED"
  | notImplemented => "NOT-IMPLEMENTED"

/-- Whether a condition is one of a whole connection rather than of one channel. -/
def isHard : Condition → Bool
  | accessRefused | notFound | preconditionFailed => false
  | connectionForced | channelError | notAllowed | notImplemented => true

end Condition

/-- The states in which a channel or a connection cannot be used. -/
inductive State where
  | initial | closing | closed | error
  deriving DecidableEq, Repr

def State.name : State → Text
  | initial => "Initial"
  | closing => "Closing"
  | closed => "Closed"
  | error => "Error"

inductive Fault where
  /-- The connection cannot be made or is gone. -/
  | io (detail : Text)
  /-- The broker refused or closed, with a text of its own. -/
  | closed (condition : Condition) (text : Text)
  | channelState (state : State)
  | connectionState (state : State)
  | channelsLimit
  | unknownChannel (number : UInt16)
  | missingHeartbeat
  deriving DecidableEq, Repr

def Fault.message : Fault → Text
  | io detail => "IO error: " ++ detail
  | closed condition text =>
    "protocol error: AMQP " ++ (if condition.isHard then "hard" else "soft" : Text) ++ " error: "
      ++ condition.name ++ ": " ++ text
  | channelState state => "invalid channel state: " ++ state.name
  | connectionState state => "invalid connection state: " ++ state.name
  | channelsLimit => "the maximum number of channels for this connection has been reached"
  | unknownChannel number => "invalid channel: " ++ Decimal.ofNat number.toNat
  | missingHeartbeat => "no heartbeat received from server for too long"

end UploadInbox.Broker
