import Mathlib.Data.List.Basic
import UploadInbox.Broker.Delivery

/-!
# What has happened between the service and the broker

A history holds what has happened, the latest first. Nothing in it is ever undone, so that whatever
was opened, declared, sent, confirmed or closed stays so. A message is known by its ticket: the
channel that it was sent on and its number among the messages of that channel, which is what the
broker names when it confirms the message.
-/
namespace UploadInbox.Broker

/-- A connection and a channel. No two connections and no two channels ever have one number. -/
structure Handle where
  connection : Nat
  channel : Nat
  deriving DecidableEq, Repr

/-- What the confirmation of a message names. -/
structure Ticket where
  channel : Nat
  number : Nat
  deriving DecidableEq, Repr

/-- What may happen. -/
inductive Occurrence where
  | connected (connection : Nat)
  | opened (handle : Handle)
  /-- From now on the messages of the channel are confirmed. -/
  | confirming (channel : Nat)
  | declared (channel : Nat) (exchange : Exchange)
  | sent (call : Nat) (ticket : Ticket) (message : Message)
  | confirmed (ticket : Ticket) (confirmation : Confirmation)
  /-- A call no longer waits for what becomes of its message. -/
  | settled (call : Nat) (answer : Answer)
  | channelClosed (channel : Nat)
  | connectionClosed (connection : Nat)
  deriving DecidableEq, Repr

/-- The call that something is a doing of. -/
def Occurrence.caller : Occurrence → Option Nat
  | sent call _ _ | settled call _ => some call
  | _ => none

/-- What has happened, the latest first. -/
abbrev History := List Occurrence

namespace History

/-- A handle of which nothing is closed. -/
def Usable (history : History) (handle : Handle) : Prop :=
  .connectionClosed handle.connection ∉ history ∧ .channelClosed handle.channel ∉ history

instance (history : History) (handle : Handle) : Decidable (history.Usable handle) :=
  inferInstanceAs (Decidable (_ ∧ _))

def remains (history : History) (handle : Handle) : Link where
  connected := .connectionClosed handle.connection ∉ history
  channelOpen := history.Usable handle

def sends (history : History) (call : Nat) : List (Ticket × Message) :=
  history.filterMap fun
    | .sent sender ticket message => if sender = call then some (ticket, message) else none
    | _ => none

def issued (history : History) (channel : Nat) : Nat :=
  history.countP fun
    | .sent _ ticket _ => ticket.channel = channel
    | _ => false

def nextTicket (history : History) (channel : Nat) : Ticket :=
  ⟨channel, history.issued channel + 1⟩

/-- The call has sent a message and does not know what has become of it. -/
def Outstanding (history : History) (call : Nat) : Prop :=
  history.sends call ≠ [] ∧ ∀ answer, .settled call answer ∉ history

/-- The broker took the message of a ticket while the call was still waiting. -/
def TakenInTime (history : History) (call : Nat) (ticket : Ticket) : Prop :=
  ∃ later answer earlier, history = later ++ .settled call answer :: earlier ∧
    .confirmed ticket .taken ∈ earlier

/-- Nothing has happened yet that is a doing of the call. -/
def Quiet (history : History) (call : Nat) : Prop :=
  ∀ occurrence ∈ history, occurrence.caller ≠ some call

/-- One history goes on to another without a doing of the call. -/
def Passes (call : Nat) (before after : History) : Prop :=
  ∃ recent : History, after = recent ++ before ∧ recent.Quiet call

end History

/-- What makes a handle fit for messages: its channel was opened on its connection, put into the
mode in which messages are confirmed, and had the exchange declared on it. -/
structure Handle.Prepared (exchange : Exchange) (history : History) (handle : Handle) : Prop where
  connected : .connected handle.connection ∈ history
  opened : .opened handle ∈ history
  confirming : .confirming handle.channel ∈ history
  declared : .declared handle.channel exchange ∈ history

namespace History

variable {history before after : History} {handle : Handle} {call : Nat} {ticket : Ticket}
  {occurrence : Occurrence}

/-! ### What is left of a handle -/

theorem remains_of_usable (usable : history.Usable handle) :
    history.remains handle = Link.opened := by
  simp [remains, Link.opened, usable, usable.1]

/-- Only a link that nothing is closed of is used as it is. -/
theorem ofLink_remains_eq_reuse_iff :
    LinkAction.ofLink (some (history.remains handle)) = .reuse ↔ history.Usable handle := by
  by_cases connected : .connectionClosed handle.connection ∈ history
  · simp [remains, Usable, LinkAction.ofLink, connected]
  · by_cases opened : .channelClosed handle.channel ∈ history <;>
      simp [remains, Usable, LinkAction.ofLink, connected, opened]

theorem Usable.of_append {recent : History} (usable : (recent ++ before).Usable handle) :
    before.Usable handle :=
  ⟨fun closed => usable.1 (List.mem_append_right _ closed),
    fun closed => usable.2 (List.mem_append_right _ closed)⟩

/-! ### What a call has sent -/

@[simp] theorem sends_sent (sender : Nat) (message : Message) :
    History.sends (.sent sender ticket message :: history) call =
      if sender = call then (ticket, message) :: history.sends call else history.sends call := by
  by_cases own : sender = call <;> simp [sends, own]

theorem sends_cons_of_ne (ne : ∀ sender ticket message, occurrence ≠ .sent sender ticket message) :
    History.sends (occurrence :: history) call = history.sends call := by
  cases occurrence with
  | sent sender ticket message => exact absurd rfl (ne sender ticket message)
  | _ => rfl

theorem mem_sends {message : Message} :
    (ticket, message) ∈ history.sends call ↔ .sent call ticket message ∈ history := by
  simp only [sends, List.mem_filterMap]
  constructor
  · rintro ⟨occurrence, mem, found⟩
    cases occurrence with
    | sent sender ticket' message' =>
      by_cases own : sender = call
      · subst own
        simp only [if_true, Option.some.injEq, Prod.mk.injEq] at found
        obtain ⟨rfl, rfl⟩ := found
        exact mem
      · simp [own] at found
    | _ => simp at found
  · intro mem
    exact ⟨_, mem, by simp⟩

theorem sends_append (recent : History) :
    History.sends (recent ++ before) call = recent.sends call ++ before.sends call :=
  List.filterMap_append

theorem Quiet.sends_eq_nil (quiet : history.Quiet call) : history.sends call = [] := by
  rw [List.eq_nil_iff_forall_not_mem]
  rintro ⟨ticket, message⟩ mem
  exact quiet _ (mem_sends.mp mem) rfl

theorem Quiet.not_settled (quiet : history.Quiet call) (answer : Answer) :
    .settled call answer ∉ history :=
  fun mem => quiet _ mem rfl

theorem Quiet.cons (quiet : history.Quiet call) (other : occurrence.caller ≠ some call) :
    History.Quiet (occurrence :: history) call := by
  simpa [Quiet, other] using quiet

/-! ### Confirmations in time -/

/-- A call that stops to wait has been confirmed in time if it was confirmed by then. -/
theorem takenInTime_settled (waiting : ∀ answer, .settled call answer ∉ history) (answer : Answer) :
    TakenInTime (.settled call answer :: history) call ticket ↔
      .confirmed ticket .taken ∈ history := by
  constructor
  · rintro ⟨later, answer', earlier, split, taken⟩
    cases later with
    | nil =>
      simp only [List.nil_append, List.cons.injEq] at split
      exact split.2 ▸ taken
    | cons first later =>
      simp only [List.cons_append, List.cons.injEq] at split
      exact absurd (by simp [split.2]) (waiting answer')
  · intro taken
    exact ⟨[], answer, history, rfl, taken⟩

/-- What happens after a call has stopped to wait is too late for it. -/
theorem takenInTime_append {recent : History}
    (unsettled : ∀ answer, .settled call answer ∉ recent) :
    TakenInTime (recent ++ history) call ticket ↔ history.TakenInTime call ticket := by
  induction recent with
  | nil => rfl
  | cons first recent ih =>
    rw [← ih fun answer mem => unsettled answer (List.mem_cons_of_mem _ mem)]
    constructor
    · rintro ⟨later, answer, earlier, split, taken⟩
      cases later with
      | nil =>
        simp only [List.nil_append, List.cons_append, List.cons.injEq] at split
        exact absurd (by simp [split.1]) (unsettled answer)
      | cons _ later =>
        simp only [List.cons_append, List.cons.injEq] at split
        exact ⟨later, answer, earlier, split.2, taken⟩
    · rintro ⟨later, answer, earlier, split, taken⟩
      exact ⟨first :: later, answer, earlier, by rw [List.cons_append, split, List.cons_append],
        taken⟩

/-! ### Going on without a call -/

theorem Passes.cons (other : occurrence.caller ≠ some call) :
    Passes call history (occurrence :: history) :=
  ⟨[occurrence], rfl, by simpa [Quiet] using other⟩

theorem Passes.refl (call : Nat) (history : History) : Passes call history history :=
  ⟨[], rfl, by simp [Quiet]⟩

variable (passes : Passes call before after)
include passes

theorem Passes.mem (mem : occurrence ∈ before) : occurrence ∈ after := by
  obtain ⟨recent, rfl, -⟩ := passes
  exact List.mem_append_right _ mem

theorem Passes.mem_iff (own : occurrence.caller = some call) :
    occurrence ∈ after ↔ occurrence ∈ before := by
  obtain ⟨recent, rfl, quiet⟩ := passes
  rw [List.mem_append]
  exact ⟨fun mem => mem.resolve_left fun mem => quiet _ mem own, .inr⟩

theorem Passes.quiet (quiet : before.Quiet call) : after.Quiet call :=
  fun occurrence mem own => quiet occurrence ((passes.mem_iff own).mp mem) own

theorem Passes.sends_eq : after.sends call = before.sends call := by
  obtain ⟨recent, rfl, quiet⟩ := passes
  rw [sends_append, quiet.sends_eq_nil, List.nil_append]

theorem Passes.takenInTime_iff :
    after.TakenInTime call ticket ↔ before.TakenInTime call ticket := by
  obtain ⟨recent, rfl, quiet⟩ := passes
  exact takenInTime_append quiet.not_settled

theorem Passes.usable (usable : after.Usable handle) : before.Usable handle := by
  obtain ⟨recent, rfl, -⟩ := passes
  exact usable.of_append

end History

theorem Handle.Prepared.mono {exchange : Exchange} {before after : History} {handle : Handle}
    (prepared : handle.Prepared exchange before) (mono : before ⊆ after) :
    handle.Prepared exchange after :=
  ⟨mono prepared.connected, mono prepared.opened, mono prepared.confirming,
    mono prepared.declared⟩

end UploadInbox.Broker
