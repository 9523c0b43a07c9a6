import UploadInbox.Query
import UploadInbox.Proofs.Percent
import UploadInbox.Proofs.Text.Fields

/-!
# Parameters taken apart

The parameters of a query are what stands between its ampersands, so that parameters put together
come apart again. A query that is empty is as good as none.
-/
namespace UploadInbox.Query

@[simp] theorem getD_nonEmpty? (query : Option Text) :
    (nonEmpty? query).getD [] = query.getD [] := by
  match query with
  | none => rfl
  | some [] => rfl
  | some (_ :: _) => rfl

@[simp] theorem nonEmpty?_nonEmpty? (query : Option Text) :
    nonEmpty? (nonEmpty? query) = nonEmpty? query := by
  match query with
  | none => rfl
  | some [] => rfl
  | some (_ :: _) => rfl

@[simp] theorem has_nonEmpty? (name : Text) (query : Option Text) :
    has name (nonEmpty? query) = has name query := by
  rw [has, getD_nonEmpty?]
  rfl

@[simp] theorem target_nonEmpty? (path : Text) (query : Option Text) :
    target path (nonEmpty? query) = target path query := by
  match query with
  | none => rfl
  | some [] => rfl
  | some (_ :: _) => rfl

theorem target_cons (c : Char) (path : Text) (query : Option Text) :
    target (c :: path) query = c :: target path query := by
  match query with
  | none => rfl
  | some [] => rfl
  | some (d :: rest) => rfl

theorem target_of_empty {query : Option Text} (empty : query.getD [] = []) (path : Text) :
    target path query = path := by
  match query with
  | none => rfl
  | some [] => rfl
  | some (d :: rest) => cases empty

theorem has_iff {name : Text} {query : Option Text} :
    has name query = true ↔
      ∃ pair ∈ pairs (query.getD []), Percent.queryComponent pair.1 = name := by
  simp [has]

theorem has_eq_false_iff {name : Text} {query : Option Text} :
    has name query = false ↔
      ∀ pair ∈ pairs (query.getD []), Percent.queryComponent pair.1 ≠ name := by
  rw [← Bool.not_eq_true, has_iff]
  simp only [not_exists, not_and, ne_eq]

theorem mem_parameters {query parameter : Text} (member : parameter ∈ parameters query) :
    parameter ≠ [] ∧ '&' ∉ parameter := by
  obtain ⟨part, filled⟩ := List.mem_filter.mp member
  refine ⟨?_, Text.not_mem_of_mem_fields '&' query parameter part⟩
  rintro rfl
  cases filled

/-- Parameters with ampersands between them are the parameters of the whole. -/
theorem parameters_join {items : List Text} (one : items ≠ [])
    (sound : ∀ item ∈ items, item ≠ [] ∧ '&' ∉ item) :
    parameters (Text.join ['&'] items) = items := by
  rw [parameters, Text.fields_join '&' items one fun item member => (sound item member).2]
  refine List.filter_eq_self.mpr ?_
  intro item member
  have filled := (sound item member).1
  cases item with
  | nil => exact absurd rfl filled
  | cons c rest => rfl

/-- Whether a character is written by encoding or stands between names and values. -/
def isParameterChar (c : Char) : Bool := Percent.isWritten c || c = '&' || c = '='

theorem isParameterChar_of_isWritten {c : Char} (written : Percent.isWritten c = true) :
    isParameterChar c = true := by
  rw [isParameterChar, written]
  rfl

theorem lt_of_isParameterChar {c : Char} (char : isParameterChar c = true) : c.toNat < 128 := by
  simp only [isParameterChar, Bool.or_eq_true, decide_eq_true_eq] at char
  rcases char with (written | rfl) | rfl
  · exact Percent.lt_of_isWritten written
  · decide
  · decide

theorem nameAndValue_append_cons {name value : Text} (bare : '=' ∉ name) :
    nameAndValue (name ++ '=' :: value) = (name, value) := by
  rw [nameAndValue, Text.cut?_append_cons '=' name value bare]
  rfl

end UploadInbox.Query
