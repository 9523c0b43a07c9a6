import UploadInbox.Proofs.Broker.Consistent

/-!
# One link for all calls

What every state of the service keeps to, however its calls and the broker take turns: the link
that is kept is ready for messages, only one call at a time waits for a confirmation, a call that
cannot make the link ready leaves none or the one it found, which is not used again as it is, and a
call succeeds exactly if it has sent its message, once, and the broker took it in time.
-/
namespace UploadInbox.Broker

variable {config : BrokerConfig} {s : System}

/-- What every state that the service can come to keeps to. -/
structure Dependable (config : BrokerConfig) (s : System) : Prop where
  /-- The channel of the link was opened on its connection, confirms and has the exchange. -/
  prepared : ∀ handle, s.link = some handle → handle.Prepared ⟨config.exchange⟩ s.history
  /-- One call at a time waits to know what has become of its message. -/
  exclusive : ∀ call other, s.history.Outstanding call → s.history.Outstanding other →
    call = other
  /-- A call that could not connect leaves no link. -/
  disconnected : ∀ call work result, s.latest = some call →
    s.calls call = .returned work result → work.action = .reconnect → ¬ work.held.Ready →
    s.link = none ∧ LinkAction.ofLink s.remains = .reconnect
  /-- A call that could not reopen the channel leaves the link that it found, for the next call to
  reopen or to connect anew. -/
  unopened : ∀ call work result, s.latest = some call →
    s.calls call = .returned work result → work.action = .reopenChannel → ¬ work.held.Ready →
    s.link = work.found ∧ s.link.isSome ∧
      (LinkAction.ofLink s.remains = .reopenChannel ∨ LinkAction.ofLink s.remains = .reconnect)
  /-- Only a link that nothing is closed of is used as it is. -/
  reusable : LinkAction.ofLink s.remains = .reuse →
    ∃ handle, s.link = some handle ∧ s.history.Usable handle
  /-- No call sends a second message. -/
  once : ∀ call, (s.history.sends call).length ≤ 1
  /-- A ticket is that of one call, so that no call hears of another's message. -/
  own : ∀ call other ticket message message', .sent call ticket message ∈ s.history →
    .sent other ticket message' ∈ s.history → call = other
  /-- A call succeeds exactly if it has sent its message, once, and the broker took it in time. -/
  delivered : ∀ call work result, s.calls call = .returned work result →
    (result = .ok () ↔ ∃ ticket, s.history.sends call = [(ticket, work.message)] ∧
      s.history.TakenInTime call ticket)
  /-- No call is told that the broker was not asked to confirm. -/
  requested : ∀ call, .settled call (.confirmed .notRequested) ∉ s.history ∧
    ∀ work result, s.calls call = .returned work result →
      result ≠ Confirmation.notRequested.result

/-- However calls and broker take turns, the service comes only to states like this. -/
theorem dependable_of_reachable (reachable : Reachable config s) : Dependable config s := by
  have consistent := reachable.consistent
  constructor
  case prepared => exact consistent.prepared
  case exclusive =>
    intro call other outstanding outstanding'
    obtain ⟨work, working⟩ := consistent.working_of_outstanding outstanding
    obtain ⟨work', working'⟩ := consistent.working_of_outstanding outstanding'
    exact consistent.eq_of_working working working'
  case disconnected =>
    intro call work result latest returned action unready
    have leaves := (consistent.ended returned).2 latest unready
    simp only [Work.Leaves, action] at leaves
    exact ⟨leaves, by simp [System.remains, leaves, LinkAction.ofLink]⟩
  case unopened =>
    intro call work result latest returned action unready
    have leaves := (consistent.ended returned).2 latest unready
    simp only [Work.Leaves, action] at leaves
    obtain ⟨handle, found, kept, unusable⟩ := leaves
    refine ⟨kept.trans found.symm, by simp [kept], ?_⟩
    cases next : LinkAction.ofLink s.remains with
    | reuse =>
      rw [System.remains, kept, Option.map_some, History.ofLink_remains_eq_reuse_iff] at next
      exact absurd next unusable
    | reopenChannel => exact .inl rfl
    | reconnect => exact .inr rfl
  case reusable => exact LinkAction.usable_of_reuse
  case once => exact consistent.length_sends_le
  case own =>
    intro call other ticket message message' sent sent'
    exact consistent.orderly.own sent sent'
  case delivered =>
    intro call work result returned
    exact (consistent.ended returned).1.eq_ok_iff
  case requested =>
    intro call
    refine ⟨consistent.orderly.requested, ?_⟩
    intro work result returned
    exact (consistent.ended returned).1.requested

def localBroker : BrokerConfig :=
  ⟨"localhost", 5672, "guest", "guest", "/", "sda", "inbox", false, none, 30⟩

def localMessage : Message := ⟨"sda", "inbox", "1", "\x7b\x7d"⟩

/-- The first of three calls gives up before the broker takes its message, the second is confirmed,
and the third cannot reopen the channel that was closed in between. -/
theorem dependable_reopening : ∃ s, Reachable localBroker s ∧ Dependable localBroker s ∧
    (∃ work, s.calls 0 = .returned work (.error (.publish "no confirmation within 30s"))) ∧
    (∃ work, s.calls 1 = .returned work (.ok ())) ∧
    (∃ work, s.calls 2 = .returned work
      (.error (.publish "failed to open channel: invalid channel state: Closed"))) ∧
    LinkAction.ofLink s.remains = .reopenChannel := by
  have made : Reachable localBroker (.linked localBroker) := .linked
  have called := ((made.step (.called 0 localMessage rfl)).step
    (.called 1 localMessage rfl)).step (.called 2 localMessage rfl)
  have sent := (called.step (.acquired 0 ⟨fun _ => none⟩ rfl rfl)).step
    (.answered 0 rfl rfl (.sent (by decide)))
  have waited := sent.step (.answered 0 rfl rfl (.silent fun c => by cases c <;> decide))
  have late := (waited.step (.released 0 rfl rfl)).step (.confirmed ⟨0, 1⟩ .taken
    (List.mem_cons_of_mem _ List.mem_cons_self) (fun c => by cases c <;> decide) (by decide))
  have sent' := (late.step (.acquired 1 ⟨fun _ => none⟩ rfl rfl)).step
    (.answered 1 rfl rfl (.sent (by decide)))
  have taken := sent'.step (.confirmed ⟨0, 2⟩ .taken List.mem_cons_self
    (fun c => by cases c <;> decide) (by decide))
  have heard := (taken.step (.answered 1 rfl rfl (.heard List.mem_cons_self))).step
    (.released 1 rfl rfl)
  have closed := heard.step (.channelClosed ⟨0, 0⟩ (by decide))
  have refused := (closed.step (.acquired 2 ⟨fun _ => none⟩ rfl rfl)).step
    (.answered 2 rfl rfl (.failed (.channelState .closed) .channel trivial
      fun handle kept => by cases kept; rfl))
  have returned := refused.step (.released 2 rfl rfl)
  exact ⟨_, returned, dependable_of_reachable returned, ⟨_, rfl⟩, ⟨_, rfl⟩, ⟨_, rfl⟩, rfl⟩

end UploadInbox.Broker
