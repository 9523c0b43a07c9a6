import UploadInbox.Text.Basic

/-!
# Trimming

What trimming takes away, and which texts it leaves as they are: those that neither begin nor end
with a character of the class.
-/
namespace UploadInbox.Text

variable {p : Char → Bool}

theorem trimEnd_eq (p : Char → Bool) (t : Text) :
    trimEnd p t = (t.reverse.dropWhile p).reverse := by
  induction t with
  | nil => rfl
  | cons c rest ih =>
    rw [trimEnd, ih, List.reverse_cons, List.dropWhile_append]
    cases kept : rest.reverse.dropWhile p with
    | nil =>
      by_cases last : p c = true
      · simp [last]
      · simp [last]
    | cons d others => simp

theorem trimEnd_append {back : Text} (inside : ∀ c ∈ back, p c = true) (front : Text) :
    trimEnd p (front ++ back) = trimEnd p front := by
  have behind : ∀ c ∈ back.reverse, p c = true := fun c member => inside c (by simpa using member)
  rw [trimEnd_eq, trimEnd_eq, List.reverse_append, List.dropWhile_append_of_pos behind]

theorem dropWhile_eq_self_iff {t : Text} :
    t.dropWhile p = t ↔ ∀ c, t.head? = some c → p c = false := by
  cases t with
  | nil => simp
  | cons c rest =>
    rw [List.dropWhile_cons]
    cases first : p c with
    | false => simp [first]
    | true =>
      have short := (List.dropWhile_sublist p (l := rest)).length_le
      have longer : rest.dropWhile p ≠ c :: rest := by
        intro same
        rw [same, List.length_cons] at short
        omega
      simp [first, longer]

theorem trimEnd_eq_self_iff {t : Text} :
    trimEnd p t = t ↔ ∀ c, t.getLast? = some c → p c = false := by
  rw [trimEnd_eq, List.reverse_eq_iff, dropWhile_eq_self_iff, List.head?_reverse]

/-- What stands at both ends and is trimmed does not count. -/
theorem trim_append {front back : Text} (before : ∀ c ∈ front, p c = true)
    (behind : ∀ c ∈ back, p c = true) (t : Text) : trim p (front ++ (t ++ back)) = trim p t := by
  rw [trim, List.dropWhile_append_of_pos before, List.dropWhile_append]
  split
  next nothing =>
    have none_kept : t.dropWhile p = [] := List.isEmpty_iff.mp nothing
    have none_behind : (back ++ []).dropWhile p = [] := List.dropWhile_append_of_pos behind
    rw [List.append_nil] at none_behind
    rw [none_behind, trim, none_kept]
  next => rw [trimEnd_append behind, trim]

theorem mem_of_mem_trim {t : Text} {c : Char} (member : c ∈ trim p t) : c ∈ t := by
  rw [trim, trimEnd_eq, List.mem_reverse] at member
  have inside : c ∈ (t.dropWhile p).reverse := (List.dropWhile_sublist p).subset member
  exact (List.dropWhile_sublist p).subset (List.mem_reverse.mp inside)

theorem trim_eq_self_iff {t : Text} :
    trim p t = t ↔ (∀ c, t.head? = some c → p c = false) ∧
      ∀ c, t.getLast? = some c → p c = false := by
  constructor
  · intro whole
    -- Nothing can be taken from the front, or the rest would be too short.
    have long : t.length ≤ (t.dropWhile p).length := by
      have trimmed : (trimEnd p (t.dropWhile p)).length ≤ (t.dropWhile p).length := by
        have shorter := (List.dropWhile_sublist p (l := (t.dropWhile p).reverse)).length_le
        rw [List.length_reverse] at shorter
        rwa [trimEnd_eq, List.length_reverse]
      rwa [← trim, whole] at trimmed
    have front : t.dropWhile p = t := (List.dropWhile_sublist p).eq_of_length_le long
    rw [trim, front] at whole
    exact ⟨dropWhile_eq_self_iff.mp front, trimEnd_eq_self_iff.mp whole⟩
  · rintro ⟨front, back⟩
    rw [trim, dropWhile_eq_self_iff.mpr front, trimEnd_eq_self_iff.mpr back]

theorem trim_of_forall {t : Text} (kept : ∀ c ∈ t, p c = false) : trim p t = t :=
  trim_eq_self_iff.mpr ⟨fun c head => kept c (List.mem_of_head? head),
    fun c last => kept c (List.mem_of_getLast? last)⟩

end UploadInbox.Text
