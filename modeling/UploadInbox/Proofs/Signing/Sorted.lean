import Mathlib.Data.List.Sort
import Mathlib.Data.Prod.Lex
import UploadInbox.Proofs.Text.Order
import UploadInbox.Signing.Canonical

/-!
# Sorted parameters

Sorting keeps every item as often as it stands in a list and puts the items in ascending order. Of
pairs in the order of their first parts and then of their second, only one list is sorted.
-/
namespace UploadInbox.Signing

theorem sorted_eq_insertionSort {α : Type} (le : α → α → Bool) (items : List α) :
    sorted le items = items.insertionSort (fun a b => le a b = true) := by
  have insert (x : α) (ys : List α) :
      insertSorted le x ys = ys.orderedInsert (fun a b => le a b = true) x := by
    induction ys with
    | nil => rfl
    | cons y ys ih => rw [insertSorted, List.orderedInsert_cons, ih]
  induction items with
  | nil => rfl
  | cons x items ih =>
    rw [List.insertionSort_cons, ← ih]
    exact insert x (sorted le items)

/-- Sorting neither loses nor merges items. -/
theorem sorted_perm {α : Type} (le : α → α → Bool) (items : List α) :
    (sorted le items).Perm items := by
  rw [sorted_eq_insertionSort]
  exact List.perm_insertionSort _ items

theorem pairLe_iff {a b : Text × Text} : pairLe a b = true ↔ toLex a ≤ toLex b := by
  rw [Prod.Lex.toLex_le_toLex, pairLe]
  by_cases same : a.1 = b.1
  · rw [if_pos same, Text.le_iff]
    simp [same]
  · rw [if_neg same, Text.le_iff]
    simp [same, lt_iff_le_and_ne]

/-- Pairs are sorted by their first parts, then by their second. -/
theorem pairwise_sorted (items : List (Text × Text)) :
    (sorted pairLe items).Pairwise fun a b => toLex a ≤ toLex b := by
  have total : Std.Total fun a b : Text × Text => pairLe a b = true :=
    ⟨fun a b => by simpa only [pairLe_iff] using le_total (toLex a) (toLex b)⟩
  have trans : IsTrans (Text × Text) fun a b => pairLe a b = true :=
    ⟨fun a b c => by simpa only [pairLe_iff] using le_trans⟩
  rw [sorted_eq_insertionSort]
  refine (List.pairwise_insertionSort _ items).imp ?_
  exact pairLe_iff.mp

/-- There is one sorted list of some pairs. -/
theorem sorted_eq_of_perm {items other : List (Text × Text)} (same : other.Perm items)
    (ascending : other.Pairwise fun a b => toLex a ≤ toLex b) : sorted pairLe items = other := by
  refine List.Perm.eq_of_pairwise ?_ (pairwise_sorted items) ascending
    ((sorted_perm pairLe items).trans same.symm)
  intro a b _ _ below above
  exact toLex_inj.mp (le_antisymm below above)

end UploadInbox.Signing
