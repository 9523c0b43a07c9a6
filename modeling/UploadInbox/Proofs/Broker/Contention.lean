import Mathlib.Logic.Function.Basic
import UploadInbox.Proofs.Broker.Tickets

/-!
# Deliveries that contend for the link

Any number of calls deliver one message each over one link. A call waits until the link is free,
locks it, takes its delivery through all its stages and gives the link free with its result. At any
time the broker may confirm or refuse a message that it was sent, late or never, and close any
channel and any connection; it may fail whatever a call asks of it. A request over something closed
fails.

A delivery knows of the link only what is left of it. Which connection, channel and message that
is stands beside it, in what its call holds. A confirmation reaches the call that holds its ticket,
and one that has come by then is not overlooked when the time is up. A message whose sending fails
may have reached the broker all the same.
-/
namespace UploadInbox.Broker

/-- What a call has in hand while it has the link. -/
inductive Held where
  | nothing
  | connection (connection : Nat)
  | channel (handle : Handle)
  /-- The link, ready for a message. -/
  | link
  | ticket (ticket : Ticket)

/-- A call with this in hand has come to a link that is ready. -/
def Held.Ready : Held → Prop
  | nothing | connection _ | channel _ => False
  | link | ticket _ => True

/-- A call that has the link, or has had it. -/
structure Work where
  message : Message
  /-- What had to be done with the link, and the link that was found. -/
  action : LinkAction
  found : Option Handle
  stage : Stage
  held : Held

def Work.delivery (config : BrokerConfig) (work : Work) (link : Option Link) : Delivery :=
  ⟨config, some work.message, work.stage, link⟩

/-- How far a call has come. -/
inductive Phase where
  | absent
  | waiting (message : Message)
  | working (work : Work)
  | returned (work : Work) (result : Except Error Unit)

/-- The link with all the calls. -/
structure System where
  history : History
  link : Option Handle
  locked : Bool
  /-- The call that has the link, or was the last to have it. -/
  latest : Option Nat
  calls : Nat → Phase

/-- The link that stands behind what a delivery keeps of one. -/
def Delivery.keeps (d : Delivery) (link : Option Handle) : Option Handle :=
  d.link.bind fun _ => link

/-- What a call that begins has in hand. -/
def LinkAction.held : LinkAction → Option Handle → Held
  | reuse, _ => .link
  | reopenChannel, some handle => .connection handle.connection
  | reopenChannel, none | reconnect, _ => .nothing

namespace System

def remains (s : System) : Option Link := s.link.map s.history.remains

def delivery (config : BrokerConfig) (s : System) (work : Work) : Delivery :=
  work.delivery config s.remains

def put (s : System) (call : Nat) (phase : Phase) : System :=
  { s with calls := Function.update s.calls call phase }

def log (s : System) (occurrence : Occurrence) : System :=
  { s with history := occurrence :: s.history }

/-- The begin of a call with the link that is found. -/
def begun (config : BrokerConfig) (files : Files) (s : System) (message : Message) : Work where
  message := message
  action := LinkAction.ofLink s.remains
  found := s.link
  stage := (Delivery.start files config s.remains message).stage
  held := (LinkAction.ofLink s.remains).held s.link

def acquire (config : BrokerConfig) (files : Files) (s : System) (call : Nat) (message : Message) :
    System where
  history := s.history
  link := (Delivery.start files config s.remains message).keeps s.link
  locked := true
  latest := some call
  calls := Function.update s.calls call (.working (begun config files s message))

def release (config : BrokerConfig) (s : System) (call : Nat) (work : Work) : System where
  history := s.history
  link := s.link
  locked := false
  latest := s.latest
  calls := Function.update s.calls call (.returned work (s.delivery config work).result)

end System

/-- What a call and the broker change when the one asks and the other answers. -/
structure Desk where
  history : History
  link : Option Handle
  held : Held

/-- Nothing counts as lost of the link that is not closed. -/
def History.Lost (history : History) (link : Option Handle) (loss : Loss) : Prop :=
  ∀ handle, link = some handle → (history.remains handle).after loss = history.remains handle

/-- The questions that make a link ready. -/
def Ask.Prepares : Ask → Prop
  | connect _ | openChannel | confirmSelect | declare _ => True
  | publish _ | confirmation => False

/-- How the broker, or the connection to it, may answer what a call asks. -/
inductive Answered (call : Nat) : Desk → Ask → Answer → Desk → Prop where
  | connected {history link login connection} (fresh : .connected connection ∉ history) :
    Answered call ⟨history, link, .nothing⟩ (.connect login) .done
      ⟨.connected connection :: history, link, .connection connection⟩
  | opened {history link connection channel}
      (connected : .connectionClosed connection ∉ history)
      (fresh : ∀ connection, .opened ⟨connection, channel⟩ ∉ history) :
    Answered call ⟨history, link, .connection connection⟩ .openChannel .done
      ⟨.opened ⟨connection, channel⟩ :: history, link, .channel ⟨connection, channel⟩⟩
  | confirming {history link handle} (usable : history.Usable handle) :
    Answered call ⟨history, link, .channel handle⟩ .confirmSelect .done
      ⟨.confirming handle.channel :: history, link, .channel handle⟩
  | declared {history link handle exchange} (usable : history.Usable handle) :
    Answered call ⟨history, link, .channel handle⟩ (.declare exchange) .done
      ⟨.declared handle.channel exchange :: history, some handle, .link⟩
  | sent {history handle message} (usable : history.Usable handle) :
    Answered call ⟨history, some handle, .link⟩ (.publish message) .done
      ⟨.sent call (history.nextTicket handle.channel) message :: history, some handle,
        .ticket (history.nextTicket handle.channel)⟩
  | heard {history link ticket confirmation}
      (confirmed : .confirmed ticket confirmation ∈ history) :
    Answered call ⟨history, link, .ticket ticket⟩ .confirmation (.confirmed confirmation)
      ⟨.settled call (.confirmed confirmation) :: history, link, .ticket ticket⟩
  | unasked {history link ticket} (unasked : .confirming ticket.channel ∉ history) :
    Answered call ⟨history, link, .ticket ticket⟩ .confirmation (.confirmed .notRequested)
      ⟨.settled call (.confirmed .notRequested) :: history, link, .ticket ticket⟩
  | silent {history link ticket}
      (unspoken : ∀ confirmation, .confirmed ticket confirmation ∉ history) :
    Answered call ⟨history, link, .ticket ticket⟩ .confirmation .silence
      ⟨.settled call .silence :: history, link, .ticket ticket⟩
  | broken {history link ticket} (fault : Fault) (loss : Loss)
      (unspoken : ∀ confirmation, .confirmed ticket confirmation ∉ history)
      (lost : history.Lost link loss) :
    Answered call ⟨history, link, .ticket ticket⟩ .confirmation (.failed fault loss)
      ⟨.settled call (.failed fault loss) :: history, link, .ticket ticket⟩
  | failed {history link held ask} (fault : Fault) (loss : Loss) (prepares : ask.Prepares)
      (lost : history.Lost link loss) :
    Answered call ⟨history, link, held⟩ ask (.failed fault loss) ⟨history, link, held⟩
  | unsent {history link message} (fault : Fault) (loss : Loss)
      (lost : history.Lost link loss) :
    Answered call ⟨history, link, .link⟩ (.publish message) (.failed fault loss)
      ⟨.settled call (.failed fault loss) :: history, link, .link⟩
  | stranded {history handle message} (fault : Fault) (loss : Loss)
      (lost : history.Lost (some handle) loss) :
    Answered call ⟨history, some handle, .link⟩ (.publish message) (.failed fault loss)
      ⟨.settled call (.failed fault loss) ::
        .sent call (history.nextTicket handle.channel) message :: history, some handle, .link⟩

/-- A call goes on with an answer. -/
def System.answer (config : BrokerConfig) (s : System) (call : Nat) (work : Work)
    (answer : Answer) (desk : Desk) : System where
  history := desk.history
  link := ((s.delivery config work).step answer).keeps desk.link
  locked := s.locked
  latest := s.latest
  calls := Function.update s.calls call
    (.working { work with
      stage := ((s.delivery config work).step answer).stage
      held := desk.held })

/-- What may happen next. -/
inductive Step (config : BrokerConfig) : System → System → Prop where
  | called {s} (call : Nat) (message : Message) (absent : s.calls call = .absent) :
    Step config s (s.put call (.waiting message))
  | acquired {s message} (call : Nat) (files : Files)
      (waiting : s.calls call = .waiting message) (free : s.locked = false) :
    Step config s (s.acquire config files call message)
  | answered {s work ask answer desk} (call : Nat) (working : s.calls call = .working work)
      (asks : (s.delivery config work).ask? = some ask)
      (answered : Answered call ⟨s.history, s.link, work.held⟩ ask answer desk) :
    Step config s (s.answer config call work answer desk)
  | released {s work} (call : Nat) (working : s.calls call = .working work)
      (ended : (s.delivery config work).ask? = none) :
    Step config s (s.release config call work)
  | confirmed {s call message} (ticket : Ticket) (confirmation : Confirmation)
      (sent : .sent call ticket message ∈ s.history)
      (unspoken : ∀ confirmation, .confirmed ticket confirmation ∉ s.history)
      (requested : confirmation ≠ .notRequested) :
    Step config s (s.log (.confirmed ticket confirmation))
  | channelClosed {s} (handle : Handle) (opened : .opened handle ∈ s.history) :
    Step config s (s.log (.channelClosed handle.channel))
  | connectionClosed {s} (connection : Nat) (connected : .connected connection ∈ s.history) :
    Step config s (s.log (.connectionClosed connection))

namespace System

/-- The service before its first delivery: there is no link yet. -/
def unlinked : System where
  history := []
  link := none
  locked := false
  latest := none
  calls := fun _ => .absent

def linked (config : BrokerConfig) : System where
  history := [.declared 0 ⟨config.exchange⟩, .confirming 0, .opened ⟨0, 0⟩, .connected 0]
  link := some ⟨0, 0⟩
  locked := false
  latest := none
  calls := fun _ => .absent

end System

/-- What the service can come to. -/
inductive Reachable (config : BrokerConfig) : System → Prop where
  | unlinked : Reachable config .unlinked
  | linked : Reachable config (.linked config)
  | step {s s'} (reachable : Reachable config s) (step : Step config s s') : Reachable config s'

/-! ### A delivery's own account of the link -/

/-- The stage at which something is asked. -/
def Ask.stage : Ask → Stage
  | connect _ => .connecting
  | openChannel => .openingChannel
  | confirmSelect => .selectingConfirms
  | declare _ => .declaring
  | publish _ => .publishing
  | confirmation => .awaiting

theorem Delivery.stage_of_ask {d : Delivery} {ask : Ask} (asks : d.ask? = some ask) :
    d.stage = ask.stage := by
  unfold ask? at asks
  cases stage : d.stage with
  | connecting | openingChannel | selectingConfirms | declaring | awaiting =>
    simp only [stage, Option.some.injEq] at asks
    subst asks
    rfl
  | publishing =>
    simp only [stage] at asks
    obtain ⟨message, -, rfl⟩ := Option.map_eq_some_iff.mp asks
    rfl
  | finished => simp [stage] at asks

/-- A delivery that has to connect keeps nothing of the link, any other begins with all of it. -/
theorem Delivery.link_start (config : BrokerConfig) (files : Files) (link : Option Link)
    (message : Message) :
    (start files config link message).link =
      if LinkAction.ofLink link = .reconnect then none else link := by
  unfold start
  cases LinkAction.ofLink link with
  | reuse | reopenChannel => rfl
  | reconnect =>
    simp only [reconnecting]
    cases obstacle? files config <;> rfl

theorem Delivery.keeps_start (config : BrokerConfig) (files : Files) (s : System)
    (message : Message) :
    (start files config s.remains message).keeps s.link =
      if LinkAction.ofLink s.remains = .reconnect then none else s.link := by
  unfold keeps
  rw [link_start]
  split
  · rfl
  · cases link : s.link <;> simp [System.remains, link]

/-- A delivery that is right about what is left of the link keeps it. -/
theorem Delivery.keeps_of_account {d : Delivery} {link : Option Handle} {history : History}
    (account : d.link = link.map history.remains) : d.keeps link = link := by
  unfold keeps
  rw [account]
  cases link <;> rfl

/-- What is made beforehand is what a broker that does all it is asked leaves of such a begin. -/
theorem Delivery.link_connect {config : BrokerConfig} {files : Files}
    (unhindered : obstacle? files config = none) :
    let made := ((((connect files config).step .done).step .done).step .done).step .done
    made.result = .ok () ∧ made.link = (System.linked config).remains := by
  simp only [connect, reconnecting, unhindered]
  exact ⟨rfl, rfl⟩

/-- What counts as lost of the link is not there anyway. -/
theorem History.Lost.map_remains {history : History} {link : Option Handle} {loss : Loss}
    (lost : history.Lost link loss) :
    (link.map history.remains).map (·.after loss) = link.map history.remains := by
  cases link with
  | none => rfl
  | some handle => simp only [Option.map_some, lost handle rfl]

/-- Only what is closed changes what is left of a handle. -/
theorem History.remains_cons {history : History} {occurrence : Occurrence}
    (channel : ∀ channel, occurrence ≠ .channelClosed channel)
    (connection : ∀ connection, occurrence ≠ .connectionClosed connection) :
    History.remains (occurrence :: history) = history.remains := by
  funext handle
  have usable : History.Usable (occurrence :: history) handle ↔ history.Usable handle := by
    simp [Usable, (channel _).symm, (connection _).symm]
  simp [remains, usable, (connection _).symm]

/-- A delivery that is right about what is left of the link is so after an answer. -/
theorem Answered.remains_eq {call : Nat} {history : History} {link : Option Handle} {held : Held}
    {ask : Ask} {answer : Answer} {desk : Desk} {d : Delivery} (carries : d.message.isSome)
    (account : d.link = link.map history.remains) (asks : d.ask? = some ask)
    (answered : Answered call ⟨history, link, held⟩ ask answer desk) :
    (d.step answer).link = desk.link.map desk.history.remains := by
  have stage := Delivery.stage_of_ask asks
  obtain ⟨message, carried⟩ := Option.isSome_iff_exists.mp carries
  cases answered with
  | connected | opened | confirming | sent =>
    rw [History.remains_cons (by simp) (by simp)]
    simp only [Delivery.step, stage, Ask.stage, account]
  | declared usable =>
    rw [History.remains_cons (by simp) (by simp), Option.map_some,
      History.remains_of_usable usable]
    simp only [Delivery.step, stage, Ask.stage, Delivery.ready, carried]
  | heard | unasked | silent =>
    rw [History.remains_cons (by simp) (by simp)]
    simp only [Delivery.step, stage, Ask.stage, Delivery.finish, account]
  | broken _ _ _ lost | unsent _ _ lost =>
    rw [History.remains_cons (by simp) (by simp)]
    simp only [Delivery.step, stage, Ask.stage, Delivery.fail, Delivery.finish, Delivery.lose,
      account, lost.map_remains]
  | stranded _ _ lost =>
    rw [History.remains_cons (by simp) (by simp), History.remains_cons (by simp) (by simp)]
    simp only [Delivery.step, stage, Ask.stage, Delivery.fail, Delivery.finish, Delivery.lose,
      account, lost.map_remains]
  | failed _ _ prepares lost =>
    cases ask with
    | publish | confirmation => exact prepares.elim
    | connect =>
      simp only [Delivery.step, stage, Ask.stage, Delivery.fail, Delivery.finish, account]
    | openChannel | confirmSelect | declare =>
      simp only [Delivery.step, stage, Ask.stage, Delivery.fail, Delivery.finish, Delivery.lose,
        account, lost.map_remains]

end UploadInbox.Broker
