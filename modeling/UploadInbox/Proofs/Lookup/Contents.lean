import Mathlib.Data.List.Nodup
import UploadInbox.Completion
import UploadInbox.Listing
import UploadInbox.Proofs.Text.Order
import UploadInbox.Proofs.Text.Utf8

/-!
# What a bucket holds

A store lists the objects of a bucket in the order of the octets of their keys. A key is the least
of all keys that begin with it, so that the first object of which the key begins with a given key
is the object of that key, if there is one, however many others there are.
-/
namespace UploadInbox

/-- The octets of a key as numbers, by which keys are ordered. -/
def rank (key : Text) : List Nat := (Utf8.encode key).map UInt8.toNat

theorem eq_of_rank_eq {key other : Text} (same : rank key = rank other) : key = other := by
  have octets : Function.Injective UInt8.toNat := fun _ _ => UInt8.toNat_inj.mp
  exact Utf8.encode_injective (List.map_injective_iff.mpr octets same)

/-- A key comes before whatever begins with it. -/
theorem rank_le_of_begins {start key : Text} (begins : Utf8.encode start <+: Utf8.encode key) :
    rank start ≤ rank key :=
  not_lt.mp (begins.map UInt8.toNat).le

/-- The objects of a bucket, one for each key. -/
structure Contents where
  objects : List ListedObject
  distinct : (objects.map ListedObject.key).Nodup

namespace Contents

variable {contents : Contents} {start : Bytes} {object : ListedObject} {key : Text}

def facts? (contents : Contents) (key : Text) : Option ObjectFacts :=
  (contents.objects.find? fun object => object.key = key).map fun object =>
    ⟨object.size, object.tag⟩

/-- The objects of which the keys begin with given octets, in the order of their keys. -/
def below (contents : Contents) (start : Bytes) : List ListedObject :=
  (contents.objects.filter fun object => start.isPrefixOf (Utf8.encode object.key)).mergeSort
    fun a b => rank a.key ≤ rank b.key

def listed (contents : Contents) (start : Bytes) (count : Nat) : List ListedObject :=
  (contents.below start).take count

theorem mem_below :
    object ∈ contents.below start ↔
      object ∈ contents.objects ∧ start <+: Utf8.encode object.key := by
  rw [below, List.mem_mergeSort, List.mem_filter, List.isPrefixOf_iff_prefix]

/-- A bucket has one object of a key. -/
theorem eq_of_key_eq {other : ListedObject} (inside : object ∈ contents.objects)
    (other_inside : other ∈ contents.objects) (same : object.key = other.key) : object = other :=
  List.inj_on_of_nodup_map contents.distinct inside other_inside same

theorem facts?_of_mem (inside : object ∈ contents.objects) :
    contents.facts? object.key = some ⟨object.size, object.tag⟩ := by
  rw [facts?]
  cases found : contents.objects.find? fun other => other.key = object.key with
  | none =>
    have absent := List.find?_eq_none.mp found object inside
    exact absurd (decide_eq_true rfl) absent
  | some other =>
    have same : other.key = object.key := by simpa using List.find?_some found
    rw [eq_of_key_eq (List.mem_of_find?_eq_some found) inside same]
    rfl

theorem facts?_eq_none (absent : ∀ object ∈ contents.objects, object.key ≠ key) :
    contents.facts? key = none := by
  rw [facts?, List.find?_eq_none.mpr fun object inside => by simpa using absent object inside]
  rfl

/-- The object of a key is the first of those of which the keys begin with it. -/
theorem below_of_mem (inside : object ∈ contents.objects) :
    ∃ rest, contents.below (Utf8.encode object.key) = object :: rest := by
  have sorted : (contents.below (Utf8.encode object.key)).Pairwise fun a b =>
      rank a.key ≤ rank b.key :=
    pairwise_mergeSort_by (rank <| ListedObject.key ·) (fun _ _ => decide_eq_true_iff) _
  have listed : object ∈ contents.below (Utf8.encode object.key) :=
    mem_below.mpr ⟨inside, List.prefix_rfl⟩
  cases shape : contents.below (Utf8.encode object.key) with
  | nil =>
    rw [shape] at listed
    cases listed
  | cons first rest =>
    have among : first ∈ contents.below (Utf8.encode object.key) := by
      rw [shape]
      exact List.mem_cons_self
    obtain ⟨present, begins⟩ := mem_below.mp among
    rw [shape] at listed sorted
    rcases List.mem_cons.mp listed with rfl | later
    · exact ⟨rest, rfl⟩
    -- what is listed before the object begins with its key and comes after it
    · have least := (List.pairwise_cons.mp sorted).1 object later
      have same : first.key = object.key :=
        eq_of_rank_eq (le_antisymm least (rank_le_of_begins begins))
      rw [eq_of_key_eq present inside same]
      exact ⟨rest, rfl⟩

end Contents
end UploadInbox
