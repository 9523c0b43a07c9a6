import UploadInbox.Http.Headers
import UploadInbox.Proofs.Text.Fields
import UploadInbox.Token.Extraction

/-!
# Where a token comes from

A token that is read from a request stands in one of its header fields, in that of the session or
behind the word of a bearer. Whatever the order in which fields are looked up, none is made up.
-/
namespace UploadInbox

namespace SortedFields

theorem mem_put {name value : Text} {fields : SortedFields} {field : Text × Text}
    (member : field ∈ put (fun _ later => later) name value fields) :
    field = (name, value) ∨ field ∈ fields := by
  induction fields with
  | nil => exact .inl (List.mem_singleton.mp member)
  | cons first rest ih =>
    obtain ⟨other, present⟩ := first
    rw [put] at member
    split at member
    next same =>
      rcases List.mem_cons.mp member with replaced | kept
      · exact .inl (by rw [replaced, same])
      · exact .inr (List.mem_cons_of_mem _ kept)
    next =>
      split at member
      · exact List.mem_cons.mp member
      · rcases List.mem_cons.mp member with here | later
        · exact .inr (by rw [here]; exact List.mem_cons_self)
        · exact (ih later).imp_right (List.mem_cons_of_mem _)

/-- Every sorted field is one of the fields that were sorted. -/
theorem mem_ofList {fields : List (Text × Text)} {field : Text × Text}
    (member : field ∈ ofList fields) : field ∈ fields := by
  have kept (sorted : SortedFields)
      (inside : field ∈ fields.foldl (fun sorted field =>
        put (fun _ later => later) field.1 field.2 sorted) sorted) :
      field ∈ sorted ∨ field ∈ fields := by
    clear member
    induction fields generalizing sorted with
    | nil => exact .inl inside
    | cons first rest ih =>
      rcases ih _ inside with put | later
      · exact (mem_put put).elim (fun here => .inr (by rw [here]; exact List.mem_cons_self)) .inl
      · exact .inr (List.mem_cons_of_mem _ later)
  exact (kept [] member).resolve_left List.not_mem_nil

theorem find?_eq_some {p : Text → Bool} {fields : SortedFields} {value : Text}
    (found : find? p fields = some value) : ∃ name, p name = true ∧ (name, value) ∈ fields := by
  obtain ⟨field, located, rfl⟩ := Option.map_eq_some_iff.mp found
  have matched := List.find?_some located
  exact ⟨field.1, matched, List.mem_of_find?_eq_some located⟩

end SortedFields

namespace Token

/-- A header field holds a token: as that of a session, or as a bearer's. -/
def HeldIn (token : Text) (field : Text × Bytes) : Prop :=
  ∃ value, Headers.visible? field.2 = some value ∧
    (field.1 = sessionHeader ∧ token = Blank.trim value ∨
      field.1 = "authorization" ∧ ∃ rest, value = "Bearer " ++ rest ∧ token = Blank.trim rest)

theorem trimmed?_eq_some {t token : Text} (trimmed : trimmed? t = some token) :
    token = Blank.trim t := by
  simp only [trimmed?] at trimmed
  split at trimmed
  · cases trimmed
  · exact (Option.some.inj trimmed).symm

/-- A value that is looked up is that of a field of the request. -/
theorem value?_lastVisible {headers : Headers} {name value : Text}
    (lower : Text.lowerAscii name = name)
    (found : value? name headers.lastVisible = some value) :
    ∃ field ∈ headers.fields, field.1 = name ∧ Headers.visible? field.2 = some value := by
  obtain ⟨other, same, member⟩ := SortedFields.find?_eq_some found
  obtain ⟨field, inside, shown⟩ := List.mem_filterMap.mp (SortedFields.mem_ofList member)
  obtain ⟨visible, shown, pair⟩ := Option.map_eq_some_iff.mp shown
  cases pair
  refine ⟨field, inside, ?_, shown⟩
  rw [← Headers.lowerAscii_of_mem inside, of_decide_eq_true same, lower]

/-- A token that a request presents stands in one of its header fields. -/
theorem exists_heldIn_of_extract? {headers : Headers} {token : Text}
    (extracted : extract? headers.lastVisible = some token) :
    ∃ field ∈ headers.fields, HeldIn token field := by
  rcases Option.or_eq_some_iff.mp extracted with session | ⟨-, bearer⟩
  · obtain ⟨value, found, trimmed⟩ := Option.bind_eq_some_iff.mp session
    obtain ⟨field, inside, named, shown⟩ := value?_lastVisible (by decide) found
    exact ⟨field, inside, value, shown, .inl ⟨named, trimmed?_eq_some trimmed⟩⟩
  · obtain ⟨rest, dropped, trimmed⟩ := Option.bind_eq_some_iff.mp bearer
    obtain ⟨value, found, dropped⟩ := Option.bind_eq_some_iff.mp dropped
    obtain ⟨field, inside, named, shown⟩ := value?_lastVisible (by decide) found
    exact ⟨field, inside, value, shown, .inr ⟨named, rest, Text.dropPrefix?_eq_some dropped,
      trimmed?_eq_some trimmed⟩⟩

end Token
end UploadInbox
