import UploadInbox.Broker.Fault
import UploadInbox.Error
import UploadInbox.Time.Span

/-!
# Confirmations

A broker that was asked to confirms each message or refuses it. An event counts as delivered only
when its message was confirmed in time.

Source: `confirmation_result` and `await_confirmation`.
-/
namespace UploadInbox.Broker

inductive Confirmation where
  /-- It has the message. -/
  | taken
  /-- It does not take the message. -/
  | refused
  /-- It was not asked to say anything. -/
  | notRequested
  deriving DecidableEq, Repr

/-- Whether a confirmation means that the message was delivered. -/
def Confirmation.result : Confirmation → Except Error Unit
  | taken => .ok ()
  | refused => .error (.publish "broker negatively acknowledged the event")
  | notRequested => .error (.publish "channel is not in confirm mode")

/-- What has come of waiting for a confirmation. -/
inductive Awaited where
  | confirmed (confirmation : Confirmation)
  | failed (fault : Fault)
  /-- Nothing came in time. -/
  | elapsed
  deriving DecidableEq, Repr

/-- Whether a message was delivered, given how long its confirmation was waited for. -/
def Awaited.result (timeout : Span) : Awaited → Except Error Unit
  | confirmed confirmation => confirmation.result
  | failed fault => .error (.publish ("confirmation failed: " ++ fault.message))
  | elapsed => .error (.publish ("no confirmation within " ++ timeout.shown))

end UploadInbox.Broker
