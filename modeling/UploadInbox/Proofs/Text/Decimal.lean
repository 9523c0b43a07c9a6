import UploadInbox.Proofs.Text.Characters
import UploadInbox.Proofs.Text.Trim
import UploadInbox.Text.Blank
import UploadInbox.Text.Decimal

/-!
# Decimal numbers that are read back

A number that was written in digits reads back as itself, also with blanks trimmed around it.
-/
namespace UploadInbox.Decimal

theorem toNat_of_isDigit {c : Char} (digit : c.isDigit = true) :
    48 ≤ c.toNat ∧ c.toNat ≤ 57 := by
  simp only [Char.isDigit, Bool.and_eq_true, decide_eq_true_eq, ge_iff_le,
    UInt32.le_iff_toNat_le] at digit
  exact digit

theorem isDigit_of_mem_ofNat {n : Nat} {c : Char} (member : c ∈ ofNat n) : c.isDigit = true :=
  Nat.isDigit_of_mem_toDigits (by decide) (by decide) member

theorem not_mem_ofNat {mark : Char} (other : mark.isDigit = false) (n : Nat) : mark ∉ ofNat n :=
  not_mem_of_class (fun _ => isDigit_of_mem_ofNat) other

theorem isDigit_of_mem_padded {width n : Nat} {c : Char} (member : c ∈ padded width n) :
    c.isDigit = true := by
  rcases List.mem_append.mp member with zero | digit
  · rw [(List.mem_replicate.mp zero).2]
    rfl
  · exact isDigit_of_mem_ofNat digit

theorem digit?_of_isDigit {c : Char} (digit : c.isDigit = true) :
    digit? c = some (c.toNat - 48) := by
  have range : '0' ≤ c ∧ c ≤ '9' := toNat_of_isDigit digit
  rw [digit?, if_pos range]

theorem readFrom_of_digits {t : Text} (digits : ∀ c ∈ t, c.isDigit = true) (value : Nat) :
    readFrom value t = some (Nat.ofDigitChars 10 t value) := by
  induction t generalizing value with
  | nil => simp [readFrom]
  | cons c rest ih =>
    have later := ih fun d member => digits d (List.mem_cons_of_mem c member)
    rw [readFrom, digit?_of_isDigit (digits c List.mem_cons_self)]
    simp only
    rw [later, Nat.ofDigitChars_cons, Nat.mul_comm]
    rfl

theorem isDigit_of_digit? {c : Char} {d : Nat} (read : digit? c = some d) :
    c.isDigit = true := by
  rw [digit?] at read
  split at read
  next range =>
    simp only [Char.isDigit, Bool.and_eq_true, decide_eq_true_eq]
    exact range
  next => cases read

theorem digits_of_readFrom {t : Text} {value n : Nat} (read : readFrom value t = some n) :
    ∀ c ∈ t, c.isDigit = true := by
  induction t generalizing value with
  | nil => simp
  | cons c rest ih =>
    rw [readFrom] at read
    split at read
    next d digit =>
      intro other member
      rcases List.mem_cons.mp member with rfl | later
      · exact isDigit_of_digit? digit
      · exact ih read other later
    next => cases read

/-- A number in digits, leading zeros allowed. -/
structure IsNumeral (t : Text) (n : Nat) : Prop where
  filled : t ≠ []
  digits : ∀ c ∈ t, c.isDigit = true
  value : Nat.ofDigitChars 10 t 0 = n

theorem read?_eq_some_iff {t : Text} {n : Nat} : read? t = some n ↔ IsNumeral t n := by
  cases t with
  | nil => exact iff_of_false nofun fun numeral => numeral.filled rfl
  | cons c rest =>
    constructor
    · intro read
      have digits := digits_of_readFrom read
      refine ⟨List.cons_ne_nil c rest, digits, ?_⟩
      rw [read?, readFrom_of_digits digits] at read
      · exact Option.some.inj read
      · exact nofun
    · rintro ⟨-, digits, rfl⟩
      rw [read?, readFrom_of_digits digits]
      exact nofun

theorem readSigned?_eq_some_iff {t : Text} {n : Nat} :
    readSigned? t = some n ↔ ∃ digits, (t = digits ∨ t = '+' :: digits) ∧ IsNumeral digits n := by
  constructor
  · intro read
    unfold readSigned? at read
    split at read
    next digits => exact ⟨digits, .inr rfl, read?_eq_some_iff.mp read⟩
    next => exact ⟨t, .inl rfl, read?_eq_some_iff.mp read⟩
  · rintro ⟨digits, rfl | rfl, numeral⟩
    · unfold readSigned?
      split
      next rest => exact absurd (numeral.digits '+' List.mem_cons_self) (by decide)
      next => exact read?_eq_some_iff.mpr numeral
    · exact read?_eq_some_iff.mpr numeral

theorem readUInt16?_eq_some_iff {t : Text} {n : UInt16} :
    readUInt16? t = some n ↔ readSigned? t = some n.toNat := by
  constructor
  · intro read
    obtain ⟨m, signed, fits⟩ := Option.bind_eq_some_iff.mp read
    split at fits
    next small =>
      cases fits
      rw [signed, UInt16.toNat_ofNat_of_lt' small]
    next => cases fits
  · intro signed
    simp [readUInt16?, signed, n.toNat_lt]

theorem readUInt64?_eq_some_iff {t : Text} {n : UInt64} :
    readUInt64? t = some n ↔ readSigned? t = some n.toNat := by
  constructor
  · intro read
    obtain ⟨m, signed, fits⟩ := Option.bind_eq_some_iff.mp read
    split at fits
    next small =>
      cases fits
      rw [signed, UInt64.toNat_ofNat_of_lt' small]
    next => cases fits
  · intro signed
    simp [readUInt64?, signed, n.toNat_lt]

@[simp] theorem read?_ofNat (n : Nat) : read? (ofNat n) = some n := by
  have digits := readFrom_of_digits (fun c member => isDigit_of_mem_ofNat (n := n) member) 0
  rw [ofNat, Nat.ofDigitChars_ten_toDigits] at digits
  unfold read?
  split
  next empty => exact absurd empty Nat.toDigits_ne_nil
  next => exact digits

@[simp] theorem readSigned?_ofNat (n : Nat) : readSigned? (ofNat n) = some n := by
  unfold readSigned?
  split
  next rest written =>
    have sign : '+' ∈ ofNat n := by simp [written]
    exact absurd (isDigit_of_mem_ofNat sign) (by decide)
  next => exact read?_ofNat n

@[simp] theorem readUInt64?_ofNat (n : UInt64) : readUInt64? (ofNat n.toNat) = some n := by
  simp [readUInt64?, n.toNat_lt]

@[simp] theorem readUInt16?_ofNat (n : UInt16) : readUInt16? (ofNat n.toNat) = some n := by
  simp [readUInt16?, n.toNat_lt]

@[simp] theorem trim_ofNat (n : Nat) : Blank.trim (ofNat n) = ofNat n := by
  refine Text.trim_of_forall fun c member => ?_
  have range := toNat_of_isDigit (isDigit_of_mem_ofNat member)
  simp only [Blank.isBlank, Bool.or_eq_false_iff, Bool.and_eq_false_iff, decide_eq_false_iff_not,
    beq_eq_false_iff_ne]
  omega

end UploadInbox.Decimal
