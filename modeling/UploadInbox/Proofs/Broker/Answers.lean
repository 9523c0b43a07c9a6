import UploadInbox.Proofs.Broker.Standing

/-!
# What one answer changes

A call asks, the broker answers, and the call stands where its delivery goes on from there. The
link that is kept afterwards is the one before or one that has just been made ready, the tickets
stay in order, and nothing happens that is a doing of another call.
-/
namespace UploadInbox.Broker

section

variable {call : Nat} {before after : Desk} {ask : Ask} {answer : Answer}
  (answered : Answered call before ask answer after)
include answered

/-- An answer to one call is no doing of another. -/
theorem Answered.passes {other : Nat} (ne : other ≠ call) :
    History.Passes other before.history after.history := by
  cases answered with
  | failed => exact .refl _ _
  | stranded =>
    refine ⟨[_, _], rfl, ?_⟩
    simp [History.Quiet, Occurrence.caller, ne.symm]
  | connected | opened | confirming | declared => exact .cons (by simp [Occurrence.caller])
  | sent | heard | unasked | silent | broken | unsent =>
    exact .cons (by simp [Occurrence.caller, ne.symm])

theorem Answered.subset : before.history ⊆ after.history :=
  fun _ mem => (answered.passes (Nat.succ_ne_self call)).mem mem

/-- As long as the link is not ready, the one before is kept. -/
theorem Answered.kept_of_unready (unready : ¬ after.held.Ready) :
    ¬ before.held.Ready ∧ after.link = before.link := by
  cases answered <;> simp_all [Held.Ready]

end

theorem Confirmation.result_eq_ok_iff {confirmation : Confirmation} :
    confirmation.result = .ok () ↔ confirmation = .taken := by
  cases confirmation <;> simp [result]

theorem Confirmation.result_ne_of_requested {confirmation : Confirmation}
    (requested : confirmation ≠ .notRequested) :
    confirmation.result ≠ Confirmation.notRequested.result := by
  cases confirmation with
  | taken => simp [result]
  | refused => exact (fails_publish (by simp)).2
  | notRequested => exact absurd rfl requested

/-- A delivery that is refused what it asks ends, and not because the broker was not asked to
confirm. -/
theorem Delivery.stage_step_failed {d : Delivery} {ask : Ask} (asks : d.ask? = some ask)
    (fault : Fault) (loss : Loss) :
    ∃ result, (d.step (.failed fault loss)).stage = .finished result ∧ Fails result := by
  have stage := stage_of_ask asks
  cases ask <;> simp only [Ask.stage] at stage <;>
    simp only [step, stage, fail, finish, lose, Awaited.result] <;>
    exact ⟨_, rfl, fails_publish (by simp)⟩

variable {call : Nat} {history : History} {link : Option Handle} {held : Held} {ask : Ask}
  {answer : Answer} {desk : Desk} {d : Delivery} {message : Message}

/-- A call that is still making the link ready has done nothing with its message. -/
theorem Standing.quiet_of_prepares (standing : Standing history link call message ask.stage held)
    (prepares : ask.Prepares) : history.Quiet call := by
  cases ask with
  | publish | confirmation => exact prepares.elim
  | connect | openChannel | confirmSelect | declare =>
    cases standing
    assumption

/-- A call that is refused what it asks has come to its end. -/
theorem Standing.of_failed (asks : d.ask? = some ask) {fault : Fault} {loss : Loss}
    (ends : ∀ result, Fails result → Ended history call message result) :
    Standing history link call message (d.step (.failed fault loss)).stage held := by
  obtain ⟨result, finished, fails⟩ := Delivery.stage_step_failed asks fault loss
  rw [finished]
  exact .finished (ends result fails)

/-- Nothing that a call asks is left without a possible answer. -/
theorem Standing.exists_answered (asks : d.ask? = some ask)
    (standing : Standing history link call message d.stage held) :
    ∃ answer desk, Answered call ⟨history, link, held⟩ ask answer desk := by
  have unlost : history.Lost link .nothing := fun _ _ => rfl
  have fault : Fault := .missingHeartbeat
  rw [Delivery.stage_of_ask asks] at standing
  cases ask with
  | connect | openChannel | confirmSelect | declare =>
    exact ⟨_, _, .failed fault .nothing trivial unlost⟩
  | publish =>
    cases standing
    exact ⟨_, _, .unsent fault .nothing unlost⟩
  | confirmation =>
    cases standing with
    | @awaiting ticket =>
      by_cases spoken : ∃ confirmation, .confirmed ticket confirmation ∈ history
      · obtain ⟨confirmation, confirmed⟩ := spoken
        exact ⟨_, _, .heard confirmed⟩
      · exact ⟨_, _, .silent (not_exists.mp spoken)⟩

section

variable (asks : d.ask? = some ask)
  (answered : Answered call ⟨history, link, held⟩ ask answer desk)
  (standing : Standing history link call message d.stage held)
include asks answered standing

/-- Only what is made ready takes the place of the link. -/
theorem Answered.prepared
    (prepared : ∀ handle, link = some handle → handle.Prepared ⟨d.config.exchange⟩ history) :
    ∀ handle, desk.link = some handle →
      handle.Prepared ⟨d.config.exchange⟩ desk.history := by
  have stage := Delivery.stage_of_ask asks
  have subset := answered.subset
  rw [stage] at standing
  intro handle kept
  cases answered with
  | @declared _ _ made exchange =>
    have same : (⟨d.config.exchange⟩ : Exchange) = exchange := by
      simpa [Delivery.ask?, stage, Ask.stage] using asks
    cases kept
    cases standing with
    | declaring quiet connected opened confirming =>
      exact ⟨subset connected, subset opened, subset confirming, by simp [same]⟩
  | connected | opened | confirming | sent | heard | unasked | silent | broken | failed | unsent
  | stranded => exact (prepared handle kept).mono subset

/-- The tickets stay in order: the broker confirms on every channel that messages are sent on. -/
theorem Answered.orderly (orderly : history.Orderly) : desk.history.Orderly := by
  have stage := Delivery.stage_of_ask asks
  rw [stage] at standing
  cases answered with
  | connected | opened | confirming | declared | silent | broken | unsent =>
    exact orderly.cons (by simp) (by simp) (by simp)
  | sent => exact orderly.cons_sent _ _ _
  | heard confirmed =>
    refine orderly.cons (by simp) (by simp) ?_
    rintro call same
    cases same
    exact orderly.spoken confirmed
  | unasked unasked =>
    cases standing with
    | awaiting sends waiting confirming => exact absurd confirming unasked
  | failed => exact orderly
  | stranded => exact (orderly.cons_sent _ _ _).cons (by simp) (by simp) (by simp)

/-- A call that makes the link ready has the next thing in hand, or gives up with nothing sent. -/
theorem Standing.after_prepares (carries : d.message = some message) (prepares : ask.Prepares) :
    Standing desk.history desk.link call message (d.step answer).stage desk.held := by
  have stage := Delivery.stage_of_ask asks
  rw [stage] at standing
  cases answered with
  | connected =>
    cases standing with
    | connecting quiet =>
      simp only [Delivery.step, stage, Ask.stage]
      exact .openingChannel (quiet.cons (by simp [Occurrence.caller])) List.mem_cons_self
  | opened =>
    cases standing with
    | openingChannel quiet connected =>
      simp only [Delivery.step, stage, Ask.stage]
      exact .selectingConfirms (quiet.cons (by simp [Occurrence.caller]))
        (List.mem_cons_of_mem _ connected) List.mem_cons_self
  | confirming =>
    cases standing with
    | selectingConfirms quiet connected opened =>
      simp only [Delivery.step, stage, Ask.stage]
      exact .declaring (quiet.cons (by simp [Occurrence.caller]))
        (List.mem_cons_of_mem _ connected) (List.mem_cons_of_mem _ opened) List.mem_cons_self
  | declared =>
    cases standing with
    | declaring quiet =>
      simp only [Delivery.step, stage, Ask.stage, Delivery.ready, carries]
      exact .publishing (quiet.cons (by simp [Occurrence.caller])) rfl
  | failed =>
    refine .of_failed asks fun result fails => .of_fails fails ?_
    exact (standing.quiet_of_prepares prepares).sends_eq_nil
  | sent | unsent | stranded | heard | unasked | silent | broken => exact prepares.elim

/-- A call that publishes its message waits for the ticket of it, or gives up: with nothing sent, or
with a message that nobody confirms. -/
theorem Standing.after_publish (carries : d.message = some message) (orderly : history.Orderly)
    (prepared : ∀ handle, link = some handle → handle.Prepared ⟨d.config.exchange⟩ history)
    {sent : Message} (publishes : ask = .publish sent) :
    Standing desk.history desk.link call message (d.step answer).stage desk.held := by
  have stage := Delivery.stage_of_ask asks
  have same : message = sent := by
    simpa [Delivery.ask?, stage, publishes, Ask.stage, carries] using asks
  subst publishes same
  rw [stage] at standing
  have quiet : history.Quiet call := by
    cases standing with
    | publishing quiet => exact quiet
  have sends (ticket : Ticket) :
      History.sends (.sent call ticket message :: history) call = [(ticket, message)] := by
    simp [quiet.sends_eq_nil]
  have waiting (ticket : Ticket) :
      ∀ answer, .settled call answer ∉ (.sent call ticket message :: history : History) := by
    simpa using quiet.not_settled
  cases answered with
  | sent =>
    simp only [Delivery.step, stage, Ask.stage]
    exact .awaiting (sends _) (waiting _) (List.mem_cons_of_mem _ (prepared _ rfl).confirming)
  | unsent =>
    refine .of_failed asks fun result fails => .of_fails fails ?_
    rw [History.sends_cons_of_ne (by simp), quiet.sends_eq_nil]
  | stranded =>
    refine .of_failed asks fun result fails => .of_unconfirmed fails (sends _) (waiting _) ?_
    simpa using orderly.nextTicket_unconfirmed _ _
  | failed _ _ prepares => exact prepares.elim

/-- A call that waits for the confirmation ends with whatever it is answered. -/
theorem Standing.after_confirmation (orderly : history.Orderly) (waits : ask = .confirmation) :
    Standing desk.history desk.link call message (d.step answer).stage desk.held := by
  have stage := Delivery.stage_of_ask asks
  subst waits
  rw [stage] at standing
  cases standing with
  | awaiting sends waiting confirming =>
    cases answered with
    | heard confirmed =>
      simp only [Delivery.step, stage, Ask.stage, Delivery.finish]
      refine .finished (.of_settled sends waiting ?_ ?_)
      · exact Confirmation.result_ne_of_requested fun same => orderly.spoken (same ▸ confirmed)
      · rw [Confirmation.result_eq_ok_iff]
        exact ⟨fun same => same ▸ confirmed, fun taken => orderly.once confirmed taken⟩
    | unasked unasked => exact absurd confirming unasked
    | silent unspoken =>
      simp only [Delivery.step, stage, Ask.stage, Delivery.finish]
      exact .finished (.of_unconfirmed (fails_publish (by simp)) sends waiting (unspoken _))
    | broken _ _ unspoken =>
      refine .of_failed asks fun result fails => ?_
      exact .of_unconfirmed fails sends waiting (unspoken _)
    | failed _ _ prepares => exact prepares.elim

/-- The call stands where its delivery goes on. -/
theorem Standing.after (carries : d.message = some message) (orderly : history.Orderly)
    (prepared : ∀ handle, link = some handle → handle.Prepared ⟨d.config.exchange⟩ history) :
    Standing desk.history desk.link call message (d.step answer).stage desk.held := by
  cases ask with
  | connect | openChannel | confirmSelect | declare =>
    exact standing.after_prepares asks answered carries trivial
  | publish => exact standing.after_publish asks answered carries orderly prepared rfl
  | confirmation => exact standing.after_confirmation asks answered orderly rfl

end

end UploadInbox.Broker
