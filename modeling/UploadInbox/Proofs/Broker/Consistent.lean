import UploadInbox.Proofs.Broker.Answers

/-!
# The state of the service holds together

What is known of a call follows from its phase, of a call that has returned and was the last to
have the link also what it has left in its place. Every step keeps to this: the call that has the
link is the only one, so that what it does is no doing of another.
-/
namespace UploadInbox.Broker

/-- What is known of a call by its phase. -/
def System.Accounts (s : System) (call : Nat) : Phase → Prop
  | .absent | .waiting _ => s.history.Quiet call
  | .working work => s.locked = true ∧ s.latest = some call ∧
      Standing s.history s.link call work.message work.stage work.held ∧
      (¬ work.held.Ready → work.Leaves s.history s.link)
  | .returned work result => Ended s.history call work.message result ∧
      (s.latest = some call → ¬ work.held.Ready → work.Leaves s.history s.link)

/-- The state of the service holds together. -/
structure Consistent (config : BrokerConfig) (s : System) : Prop where
  orderly : s.history.Orderly
  prepared : ∀ handle, s.link = some handle → handle.Prepared ⟨config.exchange⟩ s.history
  accounts : ∀ call, s.Accounts call (s.calls call)

variable {config : BrokerConfig} {s s' : System} {call : Nat} {work : Work}

/-! ### One call has the link -/

theorem Consistent.locked (consistent : Consistent config s)
    (working : s.calls call = .working work) : s.locked = true ∧ s.latest = some call := by
  have accounts := consistent.accounts call
  rw [working] at accounts
  exact ⟨accounts.1, accounts.2.1⟩

/-- While one call has the link, no other has. -/
theorem Consistent.eq_of_working (consistent : Consistent config s) {other : Nat} {work' : Work}
    (working : s.calls call = .working work) (working' : s.calls other = .working work') :
    call = other := by
  have latest := (consistent.locked working).2
  rw [(consistent.locked working').2] at latest
  exact (Option.some.inj latest).symm

/-- A call that has sent its message and does not know what has become of it has the link. -/
theorem Consistent.working_of_outstanding (consistent : Consistent config s)
    (outstanding : s.history.Outstanding call) : ∃ work, s.calls call = .working work := by
  have accounts := consistent.accounts call
  cases phase : s.calls call with
  | absent | waiting =>
    rw [phase] at accounts
    exact absurd (History.Quiet.sends_eq_nil accounts) outstanding.1
  | working work => exact ⟨work, rfl⟩
  | returned =>
    rw [phase] at accounts
    exact absurd outstanding accounts.1.not_outstanding

/-! ### Steps -/

/-- What other calls are known by is not touched by the call that has the link. -/
theorem System.Accounts.of_other {other : Nat} (accounts : s.Accounts other (s.calls other))
    (ne : other ≠ call) (idle : ∀ work, s.calls other ≠ .working work)
    (passes : History.Passes other s.history s'.history) (latest : s'.latest = some call) :
    s'.Accounts other (s.calls other) := by
  cases phase : s.calls other with
  | absent | waiting =>
    rw [phase] at accounts
    exact passes.quiet accounts
  | working work => exact absurd phase (idle work)
  | returned work =>
    rw [phase] at accounts
    refine ⟨accounts.1.passes passes, ?_⟩
    intro other_latest
    rw [latest] at other_latest
    exact absurd (Option.some.inj other_latest).symm ne

/-- What the broker does on its own is no doing of a call. -/
theorem System.Accounts.log {occurrence : Occurrence} {phase : Phase}
    (accounts : s.Accounts call phase) (callerless : occurrence.caller = none) :
    (s.log occurrence).Accounts call phase := by
  have passes : History.Passes call s.history (s.log occurrence).history :=
    .cons (by simp [callerless])
  cases phase with
  | absent | waiting => exact passes.quiet accounts
  | working =>
    obtain ⟨locked, latest, standing, leaves⟩ := accounts
    exact ⟨locked, latest, standing.passes passes, fun unready => (leaves unready).passes passes⟩
  | returned =>
    obtain ⟨ended, leaves⟩ := accounts
    exact ⟨ended.passes passes, fun latest unready => (leaves latest unready).passes passes⟩

theorem Consistent.log {occurrence : Occurrence} (consistent : Consistent config s)
    (orderly : (s.log occurrence).history.Orderly) (callerless : occurrence.caller = none) :
    Consistent config (s.log occurrence) where
  orderly := orderly
  prepared handle kept := (consistent.prepared handle kept).mono (List.subset_cons_self _ _)
  accounts call := (consistent.accounts call).log callerless

theorem Consistent.called (consistent : Consistent config s) (message : Message)
    (absent : s.calls call = .absent) : Consistent config (s.put call (.waiting message)) where
  orderly := consistent.orderly
  prepared := consistent.prepared
  accounts := by
    refine (Function.forall_update_iff s.calls _).mpr ⟨?_, ?_⟩
    · have quiet := consistent.accounts call
      rw [absent] at quiet
      exact quiet
    · intro other _
      exact consistent.accounts other

theorem LinkAction.usable_of_reuse {link : Option Handle} {history : History}
    (reuse : LinkAction.ofLink (link.map history.remains) = .reuse) :
    ∃ handle, link = some handle ∧ history.Usable handle := by
  cases link with
  | none => cases reuse
  | some handle => exact ⟨handle, rfl, History.ofLink_remains_eq_reuse_iff.mp reuse⟩

theorem LinkAction.unusable_of_reopen {link : Option Handle} {history : History}
    (reopen : LinkAction.ofLink (link.map history.remains) = .reopenChannel) :
    ∃ handle, link = some handle ∧ ¬ history.Usable handle := by
  cases link with
  | none => cases reopen
  | some handle =>
    refine ⟨handle, rfl, ?_⟩
    intro usable
    rw [Option.map_some, History.ofLink_remains_eq_reuse_iff.mpr usable] at reopen
    cases reopen

/-- What keeps a delivery from asking for a connection is no matter of confirmations. -/
theorem Delivery.fails_of_obstacle {files : Files} {e : Error}
    (obstacle : obstacle? files config = some e) : Fails (.error e) := by
  unfold obstacle? at obstacle
  split at obstacle
  · split at obstacle
    · cases obstacle
    · split at obstacle
      · cases obstacle
      · cases obstacle
        exact ⟨by simp, by simp [Confirmation.result]⟩
  · cases obstacle

/-- A call begins as its delivery does. -/
theorem Consistent.standing_begun (consistent : Consistent config s) (files : Files)
    (message : Message) (quiet : s.history.Quiet call) :
    Standing s.history (s.acquire config files call message).link call message
      (s.begun config files message).stage (s.begun config files message).held := by
  unfold System.acquire
  rw [Delivery.keeps_start]
  unfold System.begun Delivery.start
  cases action : LinkAction.ofLink s.remains with
  | reuse =>
    obtain ⟨handle, link, -⟩ := LinkAction.usable_of_reuse action
    exact .publishing quiet link
  | reopenChannel =>
    obtain ⟨handle, link, -⟩ := LinkAction.unusable_of_reopen action
    dsimp only
    rw [link]
    exact .openingChannel quiet (consistent.prepared handle link).connected
  | reconnect =>
    dsimp only [Delivery.reconnecting]
    cases obstacle : Delivery.obstacle? files config with
    | none => exact .connecting quiet
    | some e =>
      exact .finished (.of_fails (Delivery.fails_of_obstacle obstacle) quiet.sends_eq_nil)

theorem System.leaves_begun (files : Files) (call : Nat) (message : Message)
    (unready : ¬ (s.begun config files message).held.Ready) :
    (s.begun config files message).Leaves s.history
      (s.acquire config files call message).link := by
  unfold acquire
  rw [Delivery.keeps_start]
  unfold begun at unready ⊢
  unfold Work.Leaves
  cases action : LinkAction.ofLink s.remains with
  | reuse =>
    rw [action] at unready
    exact absurd trivial unready
  | reopenChannel =>
    obtain ⟨handle, link, unusable⟩ := LinkAction.unusable_of_reopen action
    exact ⟨handle, link, link, unusable⟩
  | reconnect => rfl

theorem Consistent.acquired (consistent : Consistent config s) {message : Message} (files : Files)
    (waiting : s.calls call = .waiting message) (free : s.locked = false) :
    Consistent config (s.acquire config files call message) where
  orderly := consistent.orderly
  prepared := by
    intro handle kept
    refine consistent.prepared handle ?_
    obtain ⟨-, -, kept⟩ := Option.bind_eq_some_iff.mp kept
    exact kept
  accounts := by
    refine (Function.forall_update_iff s.calls _).mpr ⟨?_, ?_⟩
    · have quiet := consistent.accounts call
      rw [waiting] at quiet
      exact ⟨rfl, rfl, consistent.standing_begun files message quiet,
        System.leaves_begun files call message⟩
    · intro other ne
      refine (consistent.accounts other).of_other ne ?_ (.refl _ _) rfl
      intro work working
      rw [(consistent.locked working).1] at free
      cases free

theorem Consistent.answered (consistent : Consistent config s) {ask : Ask} {answer : Answer}
    {desk : Desk} (working : s.calls call = .working work)
    (asks : (s.delivery config work).ask? = some ask)
    (answered : Answered call ⟨s.history, s.link, work.held⟩ ask answer desk) :
    Consistent config (s.answer config call work answer desk) := by
  have link : (s.answer config call work answer desk).link = desk.link :=
    Delivery.keeps_of_account (answered.remains_eq rfl rfl asks)
  have accounts := consistent.accounts call
  rw [working] at accounts
  obtain ⟨locked, latest, standing, leaves⟩ := accounts
  refine ⟨?_, ?_, (Function.forall_update_iff s.calls _).mpr ⟨⟨locked, latest, ?_, ?_⟩, ?_⟩⟩
  · exact answered.orderly asks standing consistent.orderly
  · rw [link]
    exact answered.prepared asks standing consistent.prepared
  · rw [link]
    exact standing.after asks answered rfl consistent.orderly consistent.prepared
  · intro unready
    obtain ⟨unready', kept⟩ := answered.kept_of_unready unready
    have left : work.Leaves desk.history s.link :=
      (leaves unready').passes (answered.passes (Nat.succ_ne_self call))
    rw [link, kept]
    exact left
  · intro other ne
    refine (consistent.accounts other).of_other ne ?_ (answered.passes ne) latest
    intro work' working'
    exact ne (consistent.eq_of_working working' working)

/-- A call that has nothing more to ask has come to its end. -/
theorem Standing.ended {history : History} {link : Option Handle} {message : Message}
    {held : Held} {d : Delivery} (standing : Standing history link call message d.stage held)
    (carries : d.message = some message) (asks : d.ask? = none) :
    Ended history call message d.result := by
  cases stage : d.stage with
  | finished result =>
    rw [stage] at standing
    cases standing with
    | finished ended => simpa only [Delivery.result, stage] using ended
  | connecting | openingChannel | selectingConfirms | declaring | publishing | awaiting =>
    simp [Delivery.ask?, stage, carries] at asks

theorem Consistent.released (consistent : Consistent config s)
    (working : s.calls call = .working work) (ended : (s.delivery config work).ask? = none) :
    Consistent config (s.release config call work) where
  orderly := consistent.orderly
  prepared := consistent.prepared
  accounts := by
    have accounts := consistent.accounts call
    rw [working] at accounts
    obtain ⟨-, latest, standing, leaves⟩ := accounts
    refine (Function.forall_update_iff s.calls _).mpr ⟨⟨?_, fun _ => leaves⟩, ?_⟩
    · exact standing.ended rfl ended
    · intro other ne
      refine (consistent.accounts other).of_other ne ?_ (.refl _ _) latest
      intro work' working'
      exact ne (consistent.eq_of_working working' working)

theorem Consistent.step (consistent : Consistent config s) (step : Step config s s') :
    Consistent config s' := by
  cases step with
  | called _ message absent => exact consistent.called message absent
  | acquired _ files waiting free => exact consistent.acquired files waiting free
  | answered _ working asks answered => exact consistent.answered working asks answered
  | released _ working ended => exact consistent.released working ended
  | confirmed _ _ sent unspoken requested =>
    exact consistent.log (consistent.orderly.cons_confirmed sent unspoken requested) rfl
  | channelClosed | connectionClosed =>
    exact consistent.log (consistent.orderly.cons (by simp) (by simp) (by simp)) rfl

/-! ### All states -/

theorem consistent_unlinked : Consistent config .unlinked where
  orderly := History.orderly_nil
  prepared _ kept := by cases kept
  accounts _ := by simp [System.unlinked, System.Accounts, History.Quiet]

theorem consistent_linked : Consistent config (.linked config) where
  orderly := by
    have : History.Orderly (System.linked config).history :=
      (((History.orderly_nil.cons (by simp) (by simp) (by simp)).cons (by simp) (by simp)
        (by simp)).cons (by simp) (by simp) (by simp)).cons (by simp) (by simp) (by simp)
    exact this
  prepared handle kept := by
    cases kept
    constructor <;> simp [System.linked]
  accounts _ := by simp [System.linked, System.Accounts, History.Quiet, Occurrence.caller]

theorem Reachable.consistent (reachable : Reachable config s) : Consistent config s := by
  induction reachable with
  | unlinked => exact consistent_unlinked
  | linked => exact consistent_linked
  | step _ step consistent => exact consistent.step step

/-! ### What follows for a call -/

theorem Consistent.ended (consistent : Consistent config s) {result : Except Error Unit}
    (returned : s.calls call = .returned work result) :
    Ended s.history call work.message result ∧
      (s.latest = some call → ¬ work.held.Ready → work.Leaves s.history s.link) := by
  have accounts := consistent.accounts call
  rwa [returned] at accounts

theorem Consistent.length_sends_le (consistent : Consistent config s) (call : Nat) :
    (s.history.sends call).length ≤ 1 := by
  have accounts := consistent.accounts call
  cases phase : s.calls call with
  | absent | waiting =>
    rw [phase] at accounts
    simp [History.Quiet.sends_eq_nil accounts]
  | working =>
    rw [phase] at accounts
    exact accounts.2.2.1.length_sends_le
  | returned => exact (consistent.ended phase).1.length_sends_le

end UploadInbox.Broker
