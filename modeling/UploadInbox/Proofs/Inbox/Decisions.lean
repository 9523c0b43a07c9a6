import UploadInbox.Completion
import UploadInbox.Proofs.Operation
import UploadInbox.Proofs.Route.BucketRoot
import UploadInbox.Proofs.Signing.Meaning

/-!
# What decisions see of a query

Every decision on a request looks for parameters by their decoded names and at nothing else of its
query, but for the end of the target. Queries that carry the same names are therefore decided on
alike, and so are queries that are signed alike.
-/
namespace UploadInbox

namespace Route

/-- A listing is told from the names that a query carries. -/
theorem isListing_iff_has {query : Option Text} :
    isListing query = true ↔ ∀ name, Query.has name query = true → name ∈ listingParameters := by
  rw [isListing_iff]
  constructor
  · intro listed name carried
    obtain ⟨pair, inside, rfl⟩ := Query.has_iff.mp carried
    exact listed pair inside
  · intro listed pair inside
    exact listed _ (Query.has_iff.mpr ⟨pair, inside, rfl⟩)

end Route

namespace Inbox

/-- Two queries are decided on alike, whatever the rest of a request is. -/
structure DecidedAlike (query other : Option Text) : Prop where
  /-- Whether an upload is finished. -/
  finished : ∀ method status,
    Completion.isUpload method query status = Completion.isUpload method other status
  rule : ∀ method path, Route.rule method path query = Route.rule method path other
  /-- Where the request goes, or why it cannot go anywhere. -/
  placed : ∀ method path bucket user,
    (Route.target method path query bucket user).map Target.path =
      (Route.target method path other bucket user).map Target.path
  /-- What the policy is asked about, where both targets or none of them end in a slash. -/
  operation : ∀ method path,
    Operation.endsInSlash path query = Operation.endsInSlash path other →
      Operation.classify method path query = Operation.classify method path other

variable {query other : Option Text}

/-- The path of a target depends on the rule alone. -/
theorem map_path_target (rule : Route.Rule) (method : Method) (path bucket user : Text) :
    (rule.target method path query bucket user).map Target.path =
      (rule.target method path other bucket user).map Target.path := by
  have placed : (Route.place method path query bucket).map Target.path =
      (Route.place method path other bucket).map Target.path := by
    unfold Route.place
    split <;> rfl
  cases rule with
  | location | listing | passThrough => rfl
  | upload | abort => exact placed

theorem isListing_congr (same : ∀ name, Query.has name query = Query.has name other) :
    Route.isListing query = Route.isListing other := by
  rw [Bool.eq_iff_iff, Route.isListing_iff_has, Route.isListing_iff_has]
  exact forall_congr' fun name => by rw [same]

theorem rule_congr (same : ∀ name, Query.has name query = Query.has name other)
    (method : Method) (path : Text) :
    Route.rule method path query = Route.rule method path other := by
  unfold Route.rule
  simp only [same, isListing_congr same]

theorem classify_congr (same : ∀ name, Query.has name query = Query.has name other)
    {path : Text} (ends : Operation.endsInSlash path query = Operation.endsInSlash path other)
    (method : Method) :
    Operation.classify method path query = Operation.classify method path other := by
  have container : (Query.target path query).getLast? = some '/' ↔
      (Query.target path other).getLast? = some '/' := by
    simpa only [Operation.endsInSlash, decide_eq_decide] using ends
  unfold Operation.classify
  simp only [same, container]

theorem isUpload_congr (same : ∀ name, Query.has name query = Query.has name other)
    (method : Method) (status : Nat) :
    Completion.isUpload method query status = Completion.isUpload method other status := by
  unfold Completion.isUpload
  simp only [same]

/-- Queries that carry the same names are decided on alike. -/
theorem decidedAlike_of_has (same : ∀ name, Query.has name query = Query.has name other) :
    DecidedAlike query other where
  finished := isUpload_congr same
  rule := rule_congr same
  placed method path bucket user := by
    rw [Route.target_eq, Route.target_eq, rule_congr same]
    exact map_path_target _ method path bucket user
  operation method _ ends := classify_congr same ends method

/-- A query carries the names that are signed for it, so that queries which are signed alike, as
those are that say the same in whatever order and spelling, are decided on alike. -/
theorem decidedAlike_of_canonicalQuery (query : Option Text) :
    (∀ name, Query.has name query =
      Query.has name (some (Signing.canonicalQuery (query.getD [])))) ∧
    Route.isListing query = Route.isListing (some (Signing.canonicalQuery (query.getD []))) ∧
    ∀ other : Option Text,
      (Signing.canonicalQuery (query.getD []) = Signing.canonicalQuery (other.getD []) ↔
        (Query.meaning (query.getD [])).Perm (Query.meaning (other.getD []))) ∧
      (Signing.canonicalQuery (query.getD []) = Signing.canonicalQuery (other.getD []) →
        DecidedAlike query other) := by
  have carried : ∀ name, Query.has name query =
      Query.has name (some (Signing.canonicalQuery (query.getD []))) :=
    Query.has_congr (Signing.meaning_canonicalQuery (query.getD [])).symm
  refine ⟨carried, isListing_congr carried, fun other =>
    ⟨Signing.canonicalQuery_eq_iff, fun same => ?_⟩⟩
  exact decidedAlike_of_has (Query.has_congr (Signing.canonicalQuery_eq_iff.mp same))

/-- The end of an upload in parts, written in two ways. -/
theorem decidedAlike_respelled :
    Signing.canonicalQuery "upload%49d=a+b&x-id&partNumber=3" =
        Signing.canonicalQuery "partNumber=%33&&x%2Did=&uploadId=a%20b" ∧
      DecidedAlike (some "upload%49d=a+b&x-id&partNumber=3")
        (some "partNumber=%33&&x%2Did=&uploadId=a%20b") := by
  have same : Signing.canonicalQuery "upload%49d=a+b&x-id&partNumber=3" =
      Signing.canonicalQuery "partNumber=%33&&x%2Did=&uploadId=a%20b" := by decide +kernel
  exact ⟨same, ((decidedAlike_of_canonicalQuery (some "upload%49d=a+b&x-id&partNumber=3")).2.2
    (some "partNumber=%33&&x%2Did=&uploadId=a%20b")).2 same⟩

end Inbox
end UploadInbox
