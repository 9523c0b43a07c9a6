import UploadInbox.Proofs.Broker.History

/-!
# Tickets

The number of a ticket counts the messages of its channel, so that no two messages have one ticket,
and what the broker says about a ticket is said about one call. In an orderly history the broker has
spoken about a ticket only once, after its message was sent, and no call was ever told that the
broker was not asked to speak.
-/
namespace UploadInbox.Broker

namespace History

/-- The tickets and the confirmations of a history belong to one another. -/
structure Orderly (history : History) : Prop where
  numbered : ∀ {call ticket message}, .sent call ticket message ∈ history →
    ticket.number ≤ history.issued ticket.channel
  own : ∀ {call other ticket message message'}, .sent call ticket message ∈ history →
    .sent other ticket message' ∈ history → call = other
  sent : ∀ {ticket confirmation}, .confirmed ticket confirmation ∈ history →
    ∃ call message, .sent call ticket message ∈ history
  once : ∀ {ticket confirmation confirmation'}, .confirmed ticket confirmation ∈ history →
    .confirmed ticket confirmation' ∈ history → confirmation = confirmation'
  spoken : ∀ {ticket}, .confirmed ticket .notRequested ∉ history
  requested : ∀ {call}, .settled call (.confirmed .notRequested) ∉ history

variable {history : History} {call : Nat} {ticket : Ticket}

theorem orderly_nil : Orderly [] := by
  constructor <;> simp

theorem issued_sent (message : Message) (channel : Nat) :
    History.issued (.sent call ticket message :: history) channel =
      history.issued channel + if ticket.channel = channel then 1 else 0 := by
  simp [issued, List.countP_cons]

theorem issued_le_cons (occurrence : Occurrence) (channel : Nat) :
    history.issued channel ≤ History.issued (occurrence :: history) channel := by
  rw [issued, issued, List.countP_cons]
  exact Nat.le_add_right _ _

variable (orderly : history.Orderly)
include orderly

/-- The next ticket of a channel is no message's yet. -/
theorem Orderly.nextTicket_unsent (channel : Nat) (message : Message) :
    .sent call (history.nextTicket channel) message ∉ history := by
  intro mem
  have numbered := orderly.numbered mem
  simp only [nextTicket] at numbered
  omega

/-- The broker cannot have spoken about a message before it was sent. -/
theorem Orderly.nextTicket_unconfirmed (channel : Nat) (confirmation : Confirmation) :
    .confirmed (history.nextTicket channel) confirmation ∉ history := by
  intro mem
  obtain ⟨call, message, sent⟩ := orderly.sent mem
  exact orderly.nextTicket_unsent channel message sent

/-- Nothing that is neither sent, confirmed nor settled disturbs the order. -/
theorem Orderly.cons {occurrence : Occurrence}
    (unsent : ∀ call ticket message, occurrence ≠ .sent call ticket message)
    (unconfirmed : ∀ ticket confirmation, occurrence ≠ .confirmed ticket confirmation)
    (requested : ∀ call, occurrence ≠ .settled call (.confirmed .notRequested)) :
    Orderly (occurrence :: history) := by
  have sent_iff : ∀ {call ticket message}, .sent call ticket message ∈ occurrence :: history ↔
      .sent call ticket message ∈ history := by
    intro call ticket message
    rw [List.mem_cons, or_iff_right (unsent call ticket message).symm]
  have confirmed_iff : ∀ {ticket confirmation},
      .confirmed ticket confirmation ∈ occurrence :: history ↔
        .confirmed ticket confirmation ∈ history := by
    intro ticket confirmation
    rw [List.mem_cons, or_iff_right (unconfirmed ticket confirmation).symm]
  constructor
  · intro call ticket message sent
    exact Nat.le_trans (orderly.numbered (sent_iff.mp sent)) (issued_le_cons _ _)
  · intro call other ticket message message' sent sent'
    exact orderly.own (sent_iff.mp sent) (sent_iff.mp sent')
  · intro ticket confirmation confirmed
    obtain ⟨call, message, sent⟩ := orderly.sent (confirmed_iff.mp confirmed)
    exact ⟨call, message, sent_iff.mpr sent⟩
  · intro ticket confirmation confirmation' confirmed confirmed'
    exact orderly.once (confirmed_iff.mp confirmed) (confirmed_iff.mp confirmed')
  · intro ticket confirmed
    exact orderly.spoken (confirmed_iff.mp confirmed)
  · intro call settled
    exact (List.mem_cons.mp settled).elim (fun eq => requested call eq.symm) orderly.requested

theorem Orderly.cons_sent (call channel : Nat) (message : Message) :
    Orderly (.sent call (history.nextTicket channel) message :: history) := by
  constructor
  · intro sender ticket message' sent
    rw [issued_sent]
    rcases List.mem_cons.mp sent with new | old
    · cases new
      simp [nextTicket]
    · exact Nat.le_trans (orderly.numbered old) (Nat.le_add_right _ _)
  · intro sender other ticket message₁ message₂ sent sent'
    rcases List.mem_cons.mp sent with new | old <;> rcases List.mem_cons.mp sent' with new' | old'
    · cases new
      cases new'
      rfl
    · cases new
      exact absurd old' (orderly.nextTicket_unsent channel message₂)
    · cases new'
      exact absurd old (orderly.nextTicket_unsent channel message₁)
    · exact orderly.own old old'
  · intro ticket confirmation confirmed
    obtain ⟨sender, message', sent⟩ := orderly.sent (by simpa using confirmed)
    exact ⟨sender, message', List.mem_cons_of_mem _ sent⟩
  · intro ticket confirmation confirmation' confirmed confirmed'
    exact orderly.once (by simpa using confirmed) (by simpa using confirmed')
  · intro ticket confirmed
    exact orderly.spoken (by simpa using confirmed)
  · intro sender settled
    exact orderly.requested (by simpa using settled)

theorem Orderly.cons_confirmed {message : Message} {confirmation : Confirmation}
    (sent : .sent call ticket message ∈ history)
    (unspoken : ∀ confirmation, .confirmed ticket confirmation ∉ history)
    (requested : confirmation ≠ .notRequested) :
    Orderly (.confirmed ticket confirmation :: history) := by
  constructor
  · intro sender ticket' message' sent'
    exact Nat.le_trans (orderly.numbered (by simpa using sent')) (issued_le_cons _ _)
  · intro sender other ticket' message₁ message₂ sent₁ sent₂
    exact orderly.own (by simpa using sent₁) (by simpa using sent₂)
  · intro ticket' confirmation' confirmed
    rcases List.mem_cons.mp confirmed with new | old
    · cases new
      exact ⟨call, message, List.mem_cons_of_mem _ sent⟩
    · obtain ⟨sender, message', sent'⟩ := orderly.sent old
      exact ⟨sender, message', List.mem_cons_of_mem _ sent'⟩
  · intro ticket' confirmation₁ confirmation₂ confirmed confirmed'
    rcases List.mem_cons.mp confirmed with new | old <;>
      rcases List.mem_cons.mp confirmed' with new' | old'
    · cases new
      cases new'
      rfl
    · cases new
      exact absurd old' (unspoken confirmation₂)
    · cases new'
      exact absurd old (unspoken confirmation₁)
    · exact orderly.once old old'
  · intro ticket' confirmed
    rcases List.mem_cons.mp confirmed with new | old
    · cases new
      exact requested rfl
    · exact orderly.spoken old
  · intro sender settled
    exact orderly.requested (by simpa using settled)

end History
end UploadInbox.Broker
