import UploadInbox.Proofs.Broker.Contention

/-!
# How a call stands

At every stage of its delivery it is known what a call has in hand and what it has sent: nothing
before it waits for a confirmation, then its own message, once, on a channel that confirms. A call
that has ended has either sent nothing and failed, or has sent its message and succeeded exactly if
the broker took it in time. What other calls do changes none of this, nor does what the broker says
and closes.
-/
namespace UploadInbox.Broker

/-- A failure, and not because the broker was not asked to confirm. -/
def Fails (result : Except Error Unit) : Prop :=
  result ≠ .ok () ∧ result ≠ Confirmation.notRequested.result

theorem fails_publish {detail : Text} (other : detail.take 2 ≠ ['c', 'h']) :
    Fails (.error (.publish detail)) := by
  refine ⟨by simp, ?_⟩
  intro same
  simp only [Confirmation.result, Except.error.injEq, Error.publish.injEq] at same
  subst same
  exact other rfl

/-- How a call ends that had a message to deliver. -/
structure Ended (history : History) (call : Nat) (message : Message) (result : Except Error Unit) :
    Prop where
  requested : result ≠ Confirmation.notRequested.result
  accounted : history.sends call = [] ∧ result ≠ .ok () ∨
    ∃ ticket, history.sends call = [(ticket, message)] ∧
      (∃ answer, .settled call answer ∈ history) ∧
      (result = .ok () ↔ history.TakenInTime call ticket)

/-- What is known of a call that has the link. -/
inductive Standing (history : History) (link : Option Handle) (call : Nat) (message : Message) :
    Stage → Held → Prop where
  | connecting (quiet : history.Quiet call) :
    Standing history link call message .connecting .nothing
  | openingChannel {connection} (quiet : history.Quiet call)
      (connected : .connected connection ∈ history) :
    Standing history link call message .openingChannel (.connection connection)
  | selectingConfirms {handle} (quiet : history.Quiet call)
      (connected : .connected handle.connection ∈ history) (opened : .opened handle ∈ history) :
    Standing history link call message .selectingConfirms (.channel handle)
  | declaring {handle} (quiet : history.Quiet call)
      (connected : .connected handle.connection ∈ history) (opened : .opened handle ∈ history)
      (confirming : .confirming handle.channel ∈ history) :
    Standing history link call message .declaring (.channel handle)
  | publishing {handle} (quiet : history.Quiet call) (kept : link = some handle) :
    Standing history link call message .publishing .link
  | awaiting {ticket} (sends : history.sends call = [(ticket, message)])
      (waiting : ∀ answer, .settled call answer ∉ history)
      (confirming : .confirming ticket.channel ∈ history) :
    Standing history link call message .awaiting (.ticket ticket)
  | finished {result held} (ended : Ended history call message result) :
    Standing history link call message (.finished result) held

/-- What a call leaves in the place of the link unless it makes it ready: nothing if it had to
connect, else the link that it found, which cannot be used as it is. -/
def Work.Leaves (work : Work) (history : History) (link : Option Handle) : Prop :=
  match work.action with
  | .reuse => False
  | .reopenChannel => ∃ handle, work.found = some handle ∧ link = some handle ∧
      ¬ history.Usable handle
  | .reconnect => link = none

section

variable {history before after : History} {link : Option Handle} {call : Nat} {message : Message}
  {stage : Stage} {held : Held} {result : Except Error Unit}

/-! ### Going on without the call -/

theorem Ended.passes (ended : Ended before call message result)
    (passes : History.Passes call before after) : Ended after call message result := by
  refine ⟨ended.requested, ?_⟩
  rw [passes.sends_eq]
  refine ended.accounted.imp id ?_
  rintro ⟨ticket, sends, ⟨answer, settled⟩, in_time⟩
  exact ⟨ticket, sends, ⟨answer, passes.mem settled⟩, by rw [in_time, passes.takenInTime_iff]⟩

theorem Standing.passes (standing : Standing before link call message stage held)
    (passes : History.Passes call before after) :
    Standing after link call message stage held := by
  cases standing with
  | connecting quiet => exact .connecting (passes.quiet quiet)
  | openingChannel quiet connected =>
    exact .openingChannel (passes.quiet quiet) (passes.mem connected)
  | selectingConfirms quiet connected opened =>
    exact .selectingConfirms (passes.quiet quiet) (passes.mem connected) (passes.mem opened)
  | declaring quiet connected opened confirming =>
    exact .declaring (passes.quiet quiet) (passes.mem connected) (passes.mem opened)
      (passes.mem confirming)
  | publishing quiet kept => exact .publishing (passes.quiet quiet) kept
  | awaiting sends waiting confirming =>
    refine .awaiting (passes.sends_eq.trans sends) ?_ (passes.mem confirming)
    intro answer settled
    exact waiting answer ((passes.mem_iff rfl).mp settled)
  | finished ended => exact .finished (ended.passes passes)

theorem Work.Leaves.passes {work : Work} (leaves : work.Leaves before link)
    (passes : History.Passes call before after) : work.Leaves after link := by
  unfold Leaves at leaves ⊢
  cases action : work.action with
  | reuse => simp only [action] at leaves
  | reconnect => simpa only [action] using leaves
  | reopenChannel =>
    simp only [action] at leaves ⊢
    obtain ⟨handle, found, kept, unusable⟩ := leaves
    exact ⟨handle, found, kept, fun usable => unusable (passes.usable usable)⟩

/-! ### What a call has sent -/

theorem Ended.length_sends_le (ended : Ended history call message result) :
    (history.sends call).length ≤ 1 := by
  rcases ended.accounted with ⟨sends, -⟩ | ⟨ticket, sends, -⟩ <;> simp [sends]

/-- A call succeeds exactly if it has sent its message, once, and the broker took it in time. -/
theorem Ended.eq_ok_iff (ended : Ended history call message result) :
    result = .ok () ↔
      ∃ ticket, history.sends call = [(ticket, message)] ∧ history.TakenInTime call ticket := by
  rcases ended.accounted with ⟨sends, failed⟩ | ⟨ticket, sends, -, in_time⟩
  · simp [sends, failed]
  · simp [sends, in_time]

theorem Ended.not_outstanding (ended : Ended history call message result) :
    ¬ history.Outstanding call := by
  rintro ⟨sent, waiting⟩
  rcases ended.accounted with ⟨sends, -⟩ | ⟨ticket, -, ⟨answer, settled⟩, -⟩
  · exact sent sends
  · exact waiting answer settled

theorem Standing.length_sends_le (standing : Standing history link call message stage held) :
    (history.sends call).length ≤ 1 := by
  cases standing with
  | connecting quiet | openingChannel quiet | selectingConfirms quiet | declaring quiet
  | publishing quiet => simp [quiet.sends_eq_nil]
  | awaiting sends => simp [sends]
  | finished ended => exact ended.length_sends_le

/-! ### How a call ends -/

theorem Ended.of_fails (fails : Fails result) (sends : history.sends call = []) :
    Ended history call message result :=
  ⟨fails.2, .inl ⟨sends, fails.1⟩⟩

/-- A call that stops to wait succeeds if its message was taken by then. -/
theorem Ended.of_settled {ticket : Ticket} {answer : Answer}
    (sends : history.sends call = [(ticket, message)])
    (waiting : ∀ answer, .settled call answer ∉ history)
    (requested : result ≠ Confirmation.notRequested.result)
    (taken : result = .ok () ↔ .confirmed ticket .taken ∈ history) :
    Ended (.settled call answer :: history) call message result := by
  refine ⟨requested, .inr ⟨ticket, ?_, ⟨answer, List.mem_cons_self⟩, ?_⟩⟩
  · rw [History.sends_cons_of_ne (by simp), sends]
  · rw [taken, History.takenInTime_settled waiting]

/-- A call that stops to wait for a message that is not taken by then ends as a failure. -/
theorem Ended.of_unconfirmed {ticket : Ticket} {answer : Answer} (fails : Fails result)
    (sends : history.sends call = [(ticket, message)])
    (waiting : ∀ answer, .settled call answer ∉ history)
    (unconfirmed : .confirmed ticket .taken ∉ history) :
    Ended (.settled call answer :: history) call message result :=
  .of_settled sends waiting fails.2 (iff_of_false fails.1 unconfirmed)

end

end UploadInbox.Broker
