import Mathlib.Data.Char
import Mathlib.Data.List.Lex
import Mathlib.Order.Lattice
import UploadInbox.Text.Basic

/-!
# The order of texts

Texts are compared character by character, and characters by their numbers: the lexicographic order
of lists over the linear order of characters, so that every fact about linear orders holds of it.
-/
namespace UploadInbox

/-- What is sorted by something in a linear order ascends in it. -/
theorem pairwise_mergeSort_by {α β : Type} [LinearOrder β] (f : α → β) {le : α → α → Bool}
    (order : ∀ a b, le a b = true ↔ f a ≤ f b) (items : List α) :
    (items.mergeSort le).Pairwise fun a b => f a ≤ f b := by
  have trans (a b c : α) (below : le a b = true) (above : le b c = true) : le a c = true := by
    rw [order] at below above ⊢
    exact le_trans below above
  have total (a b : α) : (le a b || le b a) = true := by
    rw [Bool.or_eq_true, order, order]
    exact le_total (f a) (f b)
  exact (List.pairwise_mergeSort trans total items).imp (order _ _).mp

namespace Text

theorem le_iff {s t : Text} : le s t = true ↔ s ≤ t := by
  rw [← not_lt]
  induction s generalizing t with
  | nil => simp [le]
  | cons a s ih =>
    cases t with
    | nil => simp [le]
    | cons b t =>
      rw [le, List.cons_lt_cons_iff]
      by_cases same : a = b
      · subst same
        rw [if_pos rfl, ih]
        simp
      · have number : a.toNat < b.toNat ↔ a < b := Iff.rfl
        rw [if_neg same, decide_eq_true_iff, number]
        simp only [Ne.symm same, false_and, or_false, not_lt]
        exact lt_iff_le_and_ne.trans (and_iff_left same)

theorem lt_of_not_le {s t : Text} (greater : ¬ le s t = true) : t < s := by
  rw [le_iff] at greater
  exact not_le.mp greater

end Text
end UploadInbox
