import UploadInbox.Operation
import UploadInbox.Proofs.Query

/-!
# What the policy lets through

The operation of a request is the same whether its query is empty or missing, and what is let
through is told from the end of its target and one parameter name for each method. This keeps the
rights of the store and its objects safe but for three lapses: uploads are not asked for both names
that stand for rights, and the end of an unfinished upload is told from a name without a value.
-/
namespace UploadInbox.Operation

@[simp] theorem classify_nonEmpty? (method : Method) (path : Text) (query : Option Text) :
    classify method path (Query.nonEmpty? query) = classify method path query := by
  cases method <;> simp only [classify, Query.target_nonEmpty?, Query.has_nonEmpty?]

/-- Whether the target of a request ends like the name of a container. -/
def endsInSlash (path : Text) (query : Option Text) : Bool :=
  (Query.target path query).getLast? = some '/'

/-- What the policy asks of a request with a given method. -/
def Passes (path : Text) (query : Option Text) : Method → Prop
  | .get => endsInSlash path query = false ∧ Query.has "acl" query = false
  | .put => endsInSlash path query = false ∧ Query.has "policy" query = false
  | .delete => endsInSlash path query = false ∧ Query.has "uploadId" query = true
  | .post | .other .. => True

/-- The policy looks for one parameter name at most. -/
theorem isAllowed_classify_iff {method : Method} {path : Text} {query : Option Text} :
    (classify method path query).isAllowed = true ↔ Passes path query method := by
  cases method with
  | get =>
    unfold Passes classify endsInSlash
    generalize Query.has "acl" query = named
    by_cases slash : (Query.target path query).getLast? = some '/' <;>
      cases named <;> simp [slash, isAllowed]
  | put =>
    unfold Passes classify endsInSlash
    generalize Query.has "policy" query = named
    by_cases slash : (Query.target path query).getLast? = some '/' <;>
      cases named <;> simp [slash, isAllowed]
  | delete =>
    unfold Passes classify endsInSlash
    generalize Query.has "uploadId" query = named
    by_cases slash : (Query.target path query).getLast? = some '/' <;>
      cases named <;> simp [slash, isAllowed]
  | post => exact iff_of_true rfl trivial
  | other name isOther => exact iff_of_true rfl trivial

/-- Nothing but an unfinished upload can be deleted. -/
theorem has_uploadId_of_isAllowed {path : Text} {query : Option Text}
    (allowed : (classify .delete path query).isAllowed = true) :
    Query.has "uploadId" query = true :=
  (isAllowed_classify_iff.mp allowed).2

/-! ## Rights and objects -/

/-- A request leaves rights and objects alone: an upload names no rights, and a request to delete
names the unfinished upload that it ends. -/
structure Harmless (method : Method) (query : Option Text) : Prop where
  rights : method = .put ∨ method = .post → ∀ pair ∈ Query.pairs (query.getD []),
    Percent.queryComponent pair.1 ≠ "acl" ∧ Percent.queryComponent pair.1 ≠ "policy"
  objects : method = .delete → ∃ pair ∈ Query.pairs (query.getD []),
    Percent.queryComponent pair.1 = "uploadId" ∧ pair.2 ≠ []

/-- What the policy overlooks. -/
inductive Lapse (query : Option Text) : Method → Prop where
  /-- The rights on an object are stored, and only those on the bucket are looked for. -/
  | objectRights (named : Query.has "acl" query = true) : Lapse query .put
  /-- No name is looked for. -/
  | postedRights (named : Query.has "acl" query = true ∨ Query.has "policy" query = true) :
    Lapse query .post
  /-- The name of an unfinished upload is there, but no value. -/
  | unnamedUpload (empty : ∀ pair ∈ Query.pairs (query.getD []),
      Percent.queryComponent pair.1 = "uploadId" → pair.2 = []) : Lapse query .delete

/-- An upload names no rights when neither name is there. -/
theorem rights_iff {query : Option Text} :
    (∀ pair ∈ Query.pairs (query.getD []), Percent.queryComponent pair.1 ≠ "acl" ∧
        Percent.queryComponent pair.1 ≠ "policy") ↔
      Query.has "acl" query = false ∧ Query.has "policy" query = false := by
  rw [Query.has_eq_false_iff, Query.has_eq_false_iff]
  constructor
  · intro rights
    exact ⟨fun pair inside => (rights pair inside).1, fun pair inside => (rights pair inside).2⟩
  · rintro ⟨acl, policy⟩ pair inside
    exact ⟨acl pair inside, policy pair inside⟩

/-- A request that is let through is harmless except for what the policy overlooks. -/
theorem harmless_iff_not_lapse {method : Method} {path : Text} {query : Option Text}
    (allowed : (classify method path query).isAllowed = true) :
    Harmless method query ↔ ¬ Lapse query method := by
  have passes := isAllowed_classify_iff.mp allowed
  cases method with
  | get | other =>
    refine iff_of_true ⟨?_, nofun⟩ nofun
    rintro (put | post)
    · cases put
    · cases post
  | put =>
    have unpolicied : Query.has "policy" query = false := passes.2
    constructor
    · intro harmless lapse
      obtain ⟨acl, -⟩ := rights_iff.mp (harmless.rights (.inl rfl))
      cases lapse with
      | objectRights named =>
        rw [acl] at named
        cases named
    · intro sound
      refine ⟨fun _ => rights_iff.mpr ⟨?_, unpolicied⟩, nofun⟩
      exact Bool.eq_false_iff.mpr fun named => sound (.objectRights named)
  | post =>
    constructor
    · intro harmless lapse
      obtain ⟨acl, policy⟩ := rights_iff.mp (harmless.rights (.inr rfl))
      cases lapse with
      | postedRights named =>
        rw [acl, policy] at named
        rcases named with named | named <;> cases named
    · intro sound
      refine ⟨fun _ => rights_iff.mpr ⟨?_, ?_⟩, nofun⟩
      · exact Bool.eq_false_iff.mpr fun named => sound (.postedRights (.inl named))
      · exact Bool.eq_false_iff.mpr fun named => sound (.postedRights (.inr named))
  | delete =>
    constructor
    · intro harmless lapse
      obtain ⟨pair, inside, named, filled⟩ := harmless.objects rfl
      cases lapse with
      | unnamedUpload empty => exact filled (empty pair inside named)
    · intro sound
      refine ⟨nofun, fun _ => ?_⟩
      refine Classical.byContradiction fun unfilled => sound (.unnamedUpload ?_)
      intro pair inside named
      exact Classical.byContradiction fun filled => unfilled ⟨pair, inside, named, filled⟩

/-- The end of an unfinished upload is harmless, however its name is written. -/
theorem harmless_abort : Harmless .delete (some "x-id=AbortMultipart&upload%49d=xyz") := by
  have allowed : (classify .delete "/alice/data.bam"
      (some "x-id=AbortMultipart&upload%49d=xyz")).isAllowed = true := rfl
  refine (harmless_iff_not_lapse allowed).mpr ?_
  intro lapse
  cases lapse with
  | unnamedUpload empty => cases empty ("upload%49d", "xyz") (by decide) rfl

/-- The rights on an object may be stored, those on a bucket posted, and a request to delete may
leave out the unfinished upload. -/
theorem not_harmless_of_isAllowed :
    ((classify .put "/alice/data.bam" (some "acl")).isAllowed = true ∧
      ¬ Harmless .put (some "acl")) ∧
    ((classify .post "/alice/data.bam" (some "policy")).isAllowed = true ∧
      ¬ Harmless .post (some "policy")) ∧
    (classify .delete "/alice/data.bam" (some "uploadId")).isAllowed = true ∧
      ¬ Harmless .delete (some "uploadId") := by
  refine ⟨⟨rfl, ?_⟩, ⟨rfl, ?_⟩, rfl, ?_⟩
  · intro harmless
    exact (harmless.rights (.inl rfl) ("acl", []) (by decide)).1 rfl
  · intro harmless
    exact (harmless.rights (.inr rfl) ("policy", []) (by decide)).2 rfl
  · intro harmless
    obtain ⟨pair, inside, -, filled⟩ := harmless.objects rfl
    have single : Query.pairs "uploadId" = [(("uploadId" : Text), [])] := rfl
    rw [Option.getD_some, single, List.mem_singleton] at inside
    rw [inside] at filled
    exact filled rfl

end UploadInbox.Operation
