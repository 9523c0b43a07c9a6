import UploadInbox.Proofs.Text.Decimal
import UploadInbox.Time.Civil

/-!
# Dates as they are written

Dates and timestamps are digits with a few marks among them, whatever the year; the date is what
stands before the letter of the time.
-/
namespace UploadInbox.Civil

variable {d : Char}

def isDateChar (c : Char) : Bool := c.isDigit || c = '+' || c = '-'

theorem isDateChar_of_mem_padded {width n : Nat} (member : d ∈ Decimal.padded width n) :
    isDateChar d = true := by
  simp [isDateChar, Decimal.isDigit_of_mem_padded member]

theorem isDateChar_of_mem_yearText {year : Int} (member : d ∈ yearText year) :
    isDateChar d = true := by
  unfold yearText at member
  split at member
  next => exact isDateChar_of_mem_padded member
  next =>
    split at member
    · rcases List.mem_cons.mp member with rfl | digit
      · decide
      · exact isDateChar_of_mem_padded digit
    · rcases List.mem_cons.mp member with rfl | digit
      · decide
      · exact isDateChar_of_mem_padded digit

theorem isDateChar_of_mem_date {c : Civil} (member : d ∈ c.date) : isDateChar d = true := by
  simp only [date, List.mem_append] at member
  rcases member with (year | month) | day
  · exact isDateChar_of_mem_yearText year
  · exact isDateChar_of_mem_padded month
  · exact isDateChar_of_mem_padded day

theorem mem_timestamp {c : Civil} (member : d ∈ c.timestamp) :
    isDateChar d = true ∨ d = 'T' ∨ d = 'Z' := by
  simp only [timestamp, List.mem_append, List.mem_cons, List.not_mem_nil, or_false] at member
  rcases member with (((date | rfl | hour) | minute) | second) | rfl
  · exact .inl (isDateChar_of_mem_date date)
  · exact .inr (.inl rfl)
  · exact .inl (isDateChar_of_mem_padded hour)
  · exact .inl (isDateChar_of_mem_padded minute)
  · exact .inl (isDateChar_of_mem_padded second)
  · exact .inr (.inr rfl)

/-- The date is what stands before the letter of the time. -/
theorem takeWhile_timestamp (c : Civil) : c.timestamp.takeWhile (· ≠ 'T') = c.date := by
  have others : ∀ d ∈ c.date, decide (d ≠ 'T') = true := by
    intro d member
    refine decide_eq_true ?_
    rintro rfl
    exact absurd (isDateChar_of_mem_date member) (by decide)
  simp only [timestamp, List.append_assoc, List.takeWhile_append_of_pos others]
  simp

end UploadInbox.Civil
