import UploadInbox.Route
import UploadInbox.Proofs.Namespace
import UploadInbox.Proofs.Query

/-!
# The rules of routing

Five rules, tried in order, send a request somewhere. Which of them does is a matter of the method,
the path and the decoded names of the parameters alone; neither the bucket nor the user has a part
in it. Each rule has its own place in the store, and only the rules that store or abort can fail.
-/
namespace UploadInbox.Route

/-- What decides where a request goes. -/
inductive Rule where
  /-- The location of the bucket is asked for. -/
  | location
  /-- A listing, confined to the prefix of its user. -/
  | listing
  /-- An object, or a part of one, is stored. -/
  | upload
  /-- An unfinished upload ends. -/
  | abort
  /-- Anything else stays where it was addressed. -/
  | passThrough
  deriving DecidableEq, Repr

/-- The first rule that fits a request. -/
def rule (method : Method) (path : Text) (query : Option Text) : Rule :=
  if method = .get && Query.has "location" query then .location
  else if method = .get && (Query.has "delimiter" query || Namespace.isRoot path)
      && isListing query then .listing
  else if method.isUpload then .upload
  else if method = .delete && Query.has "uploadId" query then .abort
  else .passThrough

def rootOf (bucket : Text) : Text := '/' :: bucket ++ ['/']

/-- The place of an object below the namespace that its path names. -/
def place (method : Method) (path : Text) (query : Option Text) (bucket : Text) :
    Except Error Target :=
  match Namespace.split? path with
  | none => .error (Namespace.noUser path)
  | some (_, []) => .error (.missingObjectKey (method.name ++ ' ' :: path ++ " has no object key"))
  | some (segment, rest) =>
    .ok ⟨'/' :: bucket ++ '/' :: segment ++ '/' :: rest, Query.nonEmpty? query⟩

/-- The target that a rule gives. -/
def Rule.target (rule : Rule) (method : Method) (path : Text) (query : Option Text)
    (bucket user : Text) : Except Error Target :=
  match rule with
  | .location => .ok ⟨rootOf bucket, Query.nonEmpty? query⟩
  | .listing => .ok ⟨rootOf bucket, some (scopeListing query user)⟩
  | .upload | .abort => place method path query bucket
  | .passThrough => .ok ⟨path, Query.nonEmpty? query⟩

theorem target_eq (method : Method) (path : Text) (query : Option Text) (bucket user : Text) :
    target method path query bucket user =
      (rule method path query).target method path query bucket user := by
  unfold target rule
  by_cases location : (method = .get && Query.has "location" query) = true
  · rw [if_pos location, if_pos location]
    rfl
  rw [if_neg location, if_neg location]
  by_cases listing : (method = .get && (Query.has "delimiter" query || Namespace.isRoot path)
      && isListing query) = true
  · rw [if_pos listing, if_pos listing]
    rfl
  rw [if_neg listing, if_neg listing]
  by_cases upload : method.isUpload = true
  · rw [if_pos upload, if_pos (by rw [upload, Bool.true_or])]
    rfl
  rw [if_neg upload, Bool.eq_false_iff.mpr upload, Bool.false_or]
  by_cases abort : (method = .delete && Query.has "uploadId" query) = true
  · rw [if_pos abort, if_pos abort]
    rfl
  · rw [if_neg abort, if_neg abort]
    rfl

/-- An empty query routes like none. -/
@[simp] theorem target_nonEmpty? (method : Method) (path : Text) (query : Option Text)
    (bucket user : Text) :
    target method path (Query.nonEmpty? query) bucket user =
      target method path query bucket user := by
  have listing : isListing (Query.nonEmpty? query) = isListing query := by
    rw [isListing, Query.getD_nonEmpty?, isListing]
  have scoping : scopeListing (Query.nonEmpty? query) user = scopeListing query user := by
    rw [scopeListing, Query.getD_nonEmpty?, scopeListing]
  unfold target
  simp only [Query.has_nonEmpty?, Query.nonEmpty?_nonEmpty?, listing, scoping]

theorem place_eq_ok {method : Method} {path : Text} {query : Option Text} {bucket : Text}
    {target : Target} (success : place method path query bucket = .ok target) :
    ∃ segment rest, Namespace.split? path = some (segment, rest) ∧ rest ≠ [] ∧
      target = ⟨'/' :: bucket ++ '/' :: segment ++ '/' :: rest, Query.nonEmpty? query⟩ := by
  cases split : Namespace.split? path with
  | none => simp [place, split] at success
  | some parts =>
    obtain ⟨segment, rest⟩ := parts
    cases rest with
    | nil => simp [place, split] at success
    | cons c rest =>
      simp only [place, split, Except.ok.injEq] at success
      exact ⟨segment, c :: rest, rfl, by simp, success.symm⟩

/-! ## Which rule it is -/

theorem rule_get (path : Text) (query : Option Text) :
    rule .get path query =
      if Query.has "location" query then .location
      else if (Query.has "delimiter" query || Namespace.isRoot path) && isListing query then
        .listing
      else .passThrough := rfl

theorem rule_delete (path : Text) (query : Option Text) :
    rule .delete path query = if Query.has "uploadId" query then .abort else .passThrough := rfl

/-- What a rule asks of a request that none before it fits. -/
def Rule.Fits (method : Method) (path : Text) (query : Option Text) : Rule → Prop
  | .location => method = .get ∧ Query.has "location" query = true
  | .listing => method = .get ∧ Query.has "location" query = false ∧
    (Query.has "delimiter" query || Namespace.isRoot path) = true ∧ isListing query = true
  | .upload => method.isUpload = true
  | .abort => method = .delete ∧ Query.has "uploadId" query = true
  | .passThrough => method.isUpload = false ∧
    (method = .get → Query.has "location" query = false ∧
      ((Query.has "delimiter" query || Namespace.isRoot path) && isListing query) = false) ∧
    (method = .delete → Query.has "uploadId" query = false)

theorem fits_rule (method : Method) (path : Text) (query : Option Text) :
    (rule method path query).Fits method path query := by
  cases method with
  | get =>
    rw [rule_get]
    cases location : Query.has "location" query with
    | true => exact ⟨rfl, location⟩
    | false =>
      rw [if_neg (by decide)]
      split
      next listing => exact ⟨rfl, location, Bool.and_eq_true_iff.mp listing⟩
      next other => exact ⟨rfl, fun _ => ⟨location, Bool.eq_false_iff.mpr other⟩, nofun⟩
  | put => rfl
  | post => rfl
  | delete =>
    rw [rule_delete]
    split
    next abort => exact ⟨rfl, abort⟩
    next other => exact ⟨rfl, nofun, fun _ => Bool.eq_false_iff.mpr other⟩
  | other name isOther => exact ⟨rfl, nofun, nofun⟩

/-- Whether requests of a method change what the store holds. -/
def Writes (method : Method) : Prop := method = .put ∨ method = .post ∨ method = .delete

instance (method : Method) : Decidable (Writes method) :=
  inferInstanceAs (Decidable (_ ∨ _ ∨ _))

/-- Only what is written gets a place below a namespace. -/
theorem writes_of_rule {method : Method} {path : Text} {query : Option Text}
    (which : rule method path query = .upload ∨ rule method path query = .abort) :
    Writes method := by
  have fits := fits_rule method path query
  rcases which with upload | abort
  · rw [upload] at fits
    simp only [Rule.Fits, Method.isUpload, Bool.or_eq_true, decide_eq_true_eq] at fits
    exact fits.imp_right .inl
  · rw [abort] at fits
    exact .inr (.inr fits.1)

/-- Where a request can go, one way for the rules that lead there. -/
inductive Routed (method : Method) (path : Text) (query : Option Text) (bucket user : Text) :
    Target → Prop where
  | location (which : rule method path query = .location)
      (asks : Query.has "location" query = true) :
    Routed method path query bucket user ⟨rootOf bucket, Query.nonEmpty? query⟩
  | listing (which : rule method path query = .listing) (listed : isListing query = true) :
    Routed method path query bucket user ⟨rootOf bucket, some (scopeListing query user)⟩
  | stored (which : rule method path query = .upload ∨ rule method path query = .abort)
      {segment rest : Text} (split : Namespace.split? path = some (segment, rest))
      (object : rest ≠ []) :
    Routed method path query bucket user
      ⟨'/' :: bucket ++ '/' :: segment ++ '/' :: rest, Query.nonEmpty? query⟩
  | passThrough (which : rule method path query = .passThrough) :
    Routed method path query bucket user ⟨path, Query.nonEmpty? query⟩

theorem routed_of_target {method : Method} {path : Text} {query : Option Text}
    {bucket user : Text} {target : Target}
    (success : Route.target method path query bucket user = .ok target) :
    Routed method path query bucket user target := by
  have fits := fits_rule method path query
  rw [target_eq] at success
  cases which : rule method path query with
  | location =>
    rw [which] at success fits
    cases success
    exact .location which fits.2
  | listing =>
    rw [which] at success fits
    cases success
    exact .listing which fits.2.2.2
  | upload =>
    rw [which] at success
    obtain ⟨segment, rest, split, object, rfl⟩ := place_eq_ok success
    exact .stored (.inl which) split object
  | abort =>
    rw [which] at success
    obtain ⟨segment, rest, split, object, rfl⟩ := place_eq_ok success
    exact .stored (.inr which) split object
  | passThrough =>
    rw [which] at success
    cases success
    exact .passThrough which

end UploadInbox.Route
