import UploadInbox.Broker.Confirmation
import UploadInbox.Broker.Link
import UploadInbox.Broker.Message
import UploadInbox.Files

/-!
# Deliveries

The delivery of an event goes through stages, and at each asks one thing of the broker: a connection
if there is none, a channel that confirms, the exchange, to take the message, and the confirmation.
The first thing that fails ends it. The link is kept for the next delivery once the exchange is
declared on its channel; a link that cannot be made anew is gone, a channel that cannot leaves the
link as it was.

Source: `connect`, `publish`, `ready_channel`, `open_link` and `open_channel` of `AmqpPublisher`.
Each thing that they wait for is one question to the broker.
-/
namespace UploadInbox.Broker

inductive Ask where
  | connect (login : Login)
  | openChannel
  /-- That the messages of the channel are confirmed. -/
  | confirmSelect
  | declare (exchange : Exchange)
  | publish (message : Message)
  | confirmation
  deriving DecidableEq, Repr

inductive Answer where
  | done
  /-- To the question for the confirmation only. -/
  | confirmed (confirmation : Confirmation)
  /-- Nothing in time. -/
  | silence
  | failed (fault : Fault) (loss : Loss)
  deriving DecidableEq, Repr

/-- How far a delivery has come: what it asks next, or its end. -/
inductive Stage where
  | connecting
  | openingChannel
  | selectingConfirms
  | declaring
  | publishing
  | awaiting
  | finished (result : Except Error Unit)

/-- A delivery at some point, or the making of a link alone. -/
structure Delivery where
  config : BrokerConfig
  /-- The message that is delivered, if there is one. -/
  message : Option Message
  stage : Stage
  /-- The link that is kept for later deliveries. -/
  link : Option Link

namespace Delivery

def finish (d : Delivery) (result : Except Error Unit) : Delivery :=
  { d with stage := .finished result }

/-- The delivery, ended by an error of the broker at some activity. -/
def fail (d : Delivery) (activity : Text) (fault : Fault) : Delivery :=
  d.finish (.error (.publish (activity ++ ": " ++ fault.message)))

/-- Why no connection can be asked for: the certificates to check the broker with are no text. -/
def obstacle? (files : Files) (config : BrokerConfig) : Option Error :=
  if config.encrypted then
    match config.caCert with
    | none => none
    | some path =>
      match files.readText path with
      | .ok _ => none
      | .error reason =>
        some (.config ("Failed to read broker CA '" ++ path ++ "': " ++ reason))
  else none

def reconnecting (files : Files) (d : Delivery) : Delivery :=
  match obstacle? files d.config with
  | some e => { d with link := none, stage := .finished (.error e) }
  | none => { d with link := none, stage := .connecting }

/-- The begin of a delivery over what is left of a link. -/
def start (files : Files) (config : BrokerConfig) (link : Option Link) (message : Message) :
    Delivery :=
  let d : Delivery := ⟨config, some message, .publishing, link⟩
  match LinkAction.ofLink link with
  | .reuse => d
  | .reopenChannel => { d with stage := .openingChannel }
  | .reconnect => d.reconnecting files

/-- The begin of making a link that no delivery needs yet. -/
def connect (files : Files) (config : BrokerConfig) : Delivery :=
  reconnecting files ⟨config, none, .connecting, none⟩

def ask? (d : Delivery) : Option Ask :=
  match d.stage with
  | .connecting => some (.connect (Login.ofConfig d.config))
  | .openingChannel => some .openChannel
  | .selectingConfirms => some .confirmSelect
  | .declaring => some (.declare ⟨d.config.exchange⟩)
  | .publishing => d.message.map Ask.publish
  | .awaiting => some .confirmation
  | .finished _ => none

def timeout (d : Delivery) : Span := Span.seconds d.config.confirmTimeout.toNat

def lose (d : Delivery) (loss : Loss) : Delivery :=
  { d with link := d.link.map (·.after loss) }

/-- The delivery over a link that is ready: on to the message, or ended where there is none. -/
def ready (d : Delivery) : Delivery :=
  let d := { d with link := some Link.opened }
  match d.message with
  | some _ => { d with stage := .publishing }
  | none => d.finish (.ok ())

def step (d : Delivery) (answer : Answer) : Delivery :=
  match d.stage, answer with
  | .connecting, .done => { d with stage := .openingChannel }
  | .connecting, .failed fault _ => d.fail "broker connection failed" fault
  | .openingChannel, .done => { d with stage := .selectingConfirms }
  | .openingChannel, .failed fault loss => (d.lose loss).fail "failed to open channel" fault
  | .selectingConfirms, .done => { d with stage := .declaring }
  | .selectingConfirms, .failed fault loss => (d.lose loss).fail "failed to enable confirms" fault
  | .declaring, .done => d.ready
  | .declaring, .failed fault loss =>
    (d.lose loss).fail ("failed to declare exchange '" ++ d.config.exchange ++ "'") fault
  | .publishing, .done => { d with stage := .awaiting }
  | .publishing, .failed fault loss => (d.lose loss).fail "publish failed" fault
  | .awaiting, .confirmed confirmation => d.finish confirmation.result
  | .awaiting, .silence => d.finish (Awaited.elapsed.result d.timeout)
  | .awaiting, .failed fault loss =>
    (d.lose loss).finish ((Awaited.failed fault).result d.timeout)
  -- Answers to other questions than the one that is asked.
  | _, _ => d

/-- The most questions that a delivery asks. -/
def questions : Nat := 6

/-- A delivery, carried on for a number of questions with a broker that answers as its state
says. -/
def converse {σ : Type} (broker : σ → Ask → Answer × σ) : Nat → Delivery → σ → Delivery × σ
  | 0, d, state => (d, state)
  | n + 1, d, state =>
    match d.ask? with
    | none => (d, state)
    | some ask =>
      let (answer, state) := broker state ask
      converse broker n (d.step answer) state

/-- The result of a delivery; one that has not ended has none to speak of. -/
def result (d : Delivery) : Except Error Unit :=
  match d.stage with
  | .finished result => result
  | _ => .error (.publish "broker link unavailable")

end Delivery
end UploadInbox.Broker
