import UploadInbox.Text.Basic

/-!
# Classes of characters

What a text of the characters of a class cannot contain, where letters and digits stand among
characters, and which letters lowering changes. Plain characters are those of names as operators
choose them: none of them means anything in an address or cannot be sent.
-/
namespace UploadInbox

theorem ne_of_class {p : Char → Bool} {c mark : Char} (inside : p c = true)
    (outside : p mark = false) : c ≠ mark := by
  rintro rfl
  rw [inside] at outside
  cases outside

/-- A character that is not of a class stands in no text of that class. -/
theorem not_mem_of_class {p : Char → Bool} {t : Text} (inside : ∀ c ∈ t, p c = true)
    {mark : Char} (outside : p mark = false) : mark ∉ t :=
  fun member => ne_of_class (inside mark member) outside rfl

/-- Whether one class of characters below 128 lies in another is checked one by one. -/
theorem imp_of_ascii (p q : Char → Bool)
    (every : ∀ n < 128, p (Char.ofNat n) = true → q (Char.ofNat n) = true) {c : Char}
    (ascii : c.toNat < 128) (holds : p c = true) : q c = true := by
  have here := every c.toNat ascii
  rw [Char.ofNat_toNat] at here
  exact here holds

theorem bounds_of_isAlphanum {c : Char} (letter : c.isAlphanum = true) :
    0x20 < c.toNat ∧ c.toNat < 0x7F := by
  have range {low high : Char}
      (inside : (decide (c.val ≥ low.val) && decide (c.val ≤ high.val)) = true) :
      low.toNat ≤ c.toNat ∧ c.toNat ≤ high.toNat := by
    simp only [Bool.and_eq_true, decide_eq_true_eq, ge_iff_le, UInt32.le_iff_toNat_le] at inside
    exact inside
  change ((c.isUpper || c.isLower) || c.isDigit) = true at letter
  simp only [Bool.or_eq_true] at letter
  rcases letter with (upper | lower) | digit
  · have inside : 65 ≤ c.toNat ∧ c.toNat ≤ 90 := of_decide_eq_true upper
    omega
  · have inside : 97 ≤ c.toNat ∧ c.toNat ≤ 122 := range lower
    omega
  · have inside : 48 ≤ c.toNat ∧ c.toNat ≤ 57 := range digit
    omega

/-- Whether a character is a dash, a dot, an underscore, a digit or a letter. Beyond ASCII every
character is taken for one of these. -/
def isPlain (c : Char) : Bool :=
  c.isAlphanum || c = '-' || c = '.' || c = '_' || 0x80 ≤ c.toNat

theorem bounds_of_isPlain {c : Char} (plain : isPlain c = true) :
    0x20 < c.toNat ∧ c.toNat ≠ 0x7F := by
  simp only [isPlain, Bool.or_eq_true, decide_eq_true_eq] at plain
  rcases plain with (((letter | rfl) | rfl) | rfl) | wide
  · have bounds := bounds_of_isAlphanum letter
    omega
  · decide
  · decide
  · decide
  · omega

/-! ## Capital letters -/

theorem Text.toLower_eq_self_iff {c : Char} : c.toLower = c ↔ c.isUpper = false := by
  rw [← Char.toNat_inj, Text.toNat_toLower, Bool.eq_false_iff]
  have capital : c.isUpper = true ↔ 65 ≤ c.toNat ∧ c.toNat ≤ 90 := decide_eq_true_iff
  rw [Ne, capital]
  split
  · omega
  · omega

theorem Text.lowerAscii_eq_self_iff {t : Text} :
    lowerAscii t = t ↔ ∀ c ∈ t, c.isUpper = false := by
  have kept : lowerAscii t = t ↔ ∀ c ∈ t, c.toLower = id c := by
    rw [← List.map_inj_left, List.map_id]
    rfl
  rw [kept]
  exact forall₂_congr fun c _ => Text.toLower_eq_self_iff

end UploadInbox
