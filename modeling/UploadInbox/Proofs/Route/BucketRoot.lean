import UploadInbox.Proofs.Route.Rules
import UploadInbox.Proofs.Route.Scoping

/-!
# What is asked of the root of the bucket

The root of the bucket belongs to no user. Two questions may be put to it: where the bucket is, and
what a listing confined to one user's prefix holds. Routing keeps to this except in two ways: the
question for the location takes its other parameters along, and a request that passes through
reaches the root when its own path is that of the bucket. Both ways are told from the request alone.
-/
namespace UploadInbox

namespace Text

/-- Trimming stops before a character that is kept. -/
theorem length_lt_trimEnd {p : Char → Bool} {c : Char} (kept : p c = false) (before after : Text) :
    before.length < (trimEnd p (before ++ c :: after)).length := by
  induction before with
  | nil =>
    rw [List.nil_append, trimEnd]
    split
    · simp [kept]
    · simp
  | cons d before ih =>
    rw [List.cons_append, trimEnd]
    split
    next emptied =>
      rw [emptied] at ih
      cases ih
    next trimmed _ =>
      rw [List.length_cons, List.length_cons]
      omega

end Text

namespace Route

/-- The query asks for the location of the bucket and for nothing else. -/
def AsksLocation (query : Option Text) : Prop :=
  Query.has "location" query = true ∧
    ∀ pair ∈ Query.pairs (query.getD []), Percent.queryComponent pair.1 = "location"

/-- The query is that of a listing, every prefix of which lies in the namespace of a user. -/
structure ScopedListing (user : Text) (query : Option Text) : Prop where
  listing : ∀ pair ∈ Query.pairs (query.getD []),
    Percent.queryComponent pair.1 ∈ listingParameters
  restricted : ∃ pair ∈ Query.pairs (query.getD []), Percent.queryComponent pair.1 = "prefix"
  /-- Octet by octet, so that no decoding of the value leaves the namespace. -/
  confined : ∀ pair ∈ Query.pairs (query.getD []), Percent.queryComponent pair.1 = "prefix" →
    Utf8.encode (user ++ ['/']) <+: Percent.queryOctets pair.2

/-- Where the value of a prefix decodes to a text, that begins with the user's name and a slash. -/
theorem ScopedListing.value_prefix {user value : Text} {query : Option Text} {pair : Text × Text}
    (listing : ScopedListing user query) (inside : pair ∈ Query.pairs (query.getD []))
    (named : Percent.queryComponent pair.1 = "prefix")
    (decoded : Percent.decode? (Percent.spaced pair.2) = some value) : user ++ ['/'] <+: value := by
  have octets := listing.confined pair inside named
  rw [Percent.queryOctets, Percent.decode?_eq_some.mp decoded] at octets
  exact Utf8.isPrefix_of_encode octets

/-- What may be asked of the root of the bucket on behalf of a user. -/
def RootQuery (user : Text) (query : Option Text) : Prop :=
  AsksLocation query ∨ ScopedListing user query

theorem isListing_iff {query : Option Text} :
    isListing query = true ↔ ∀ pair ∈ Query.pairs (query.getD []),
      Percent.queryComponent pair.1 ∈ listingParameters := by
  simp [isListing, -Prod.forall]

/-- A confined listing may be asked of the root. -/
theorem scopedListing_scopeListing {query : Option Text} (user : Text)
    (listing : isListing query = true) : ScopedListing user (some (scopeListing query user)) where
  listing := by
    intro pair member
    rcases mem_pairs_scopeListing member with ⟨value, rfl⟩ | ⟨inside, -⟩
    · exact (by decide : Percent.queryComponent ("prefix" : Text) ∈ listingParameters)
    · exact isListing_iff.mp listing pair inside
  restricted := by
    obtain ⟨value, inside⟩ := exists_prefix_scopeListing query user
    exact ⟨_, inside, rfl⟩
  confined := by
    intro pair member named
    rcases mem_pairs_scopeListing member with ⟨value, rfl⟩ | ⟨-, other⟩
    · change _ <+: Percent.queryOctets (writtenPrefix user ++ value)
      rw [writtenPrefix, Percent.queryOctets_encode_append]
      exact List.prefix_append _ _
    · exact absurd named other

/-- A query for the location is no listing. -/
theorem not_scopedListing {query : Option Text} (user : Text)
    (location : Query.has "location" query = true) : ¬ ScopedListing user query := by
  intro listing
  obtain ⟨pair, inside, named⟩ := Query.has_iff.mp location
  have allowed := listing.listing pair inside
  rw [named] at allowed
  exact absurd allowed (by decide)

theorem scopedListing_of_getD {user : Text} {query query' : Option Text}
    (same : query.getD [] = query'.getD []) (listing : ScopedListing user query) :
    ScopedListing user query' := by
  obtain ⟨listed, restricted, confined⟩ := listing
  rw [same] at listed restricted confined
  exact ⟨listed, restricted, confined⟩

/-- An empty query asks what no query asks. -/
theorem rootQuery_nonEmpty? {user : Text} {query : Option Text} :
    RootQuery user (Query.nonEmpty? query) ↔ RootQuery user query := by
  have same := Query.getD_nonEmpty? query
  have location : AsksLocation (Query.nonEmpty? query) ↔ AsksLocation query := by
    simp only [AsksLocation, Query.has_nonEmpty?, same]
  have listing : ScopedListing user (Query.nonEmpty? query) ↔ ScopedListing user query :=
    ⟨scopedListing_of_getD same, scopedListing_of_getD same.symm⟩
  rw [RootQuery, location, listing, RootQuery]

/-- An object below a namespace is not the root of a bucket, however many slashes follow it. -/
theorem trimEnd_ne_of_split {path segment rest : Text} (bucket : Text)
    (split : Namespace.split? path = some (segment, rest)) :
    Text.trimEnd (· = '/') ('/' :: bucket ++ '/' :: segment ++ '/' :: rest) ≠ '/' :: bucket := by
  obtain ⟨filled, flat⟩ := Namespace.split?_eq_some split
  cases segment with
  | nil => exact absurd rfl filled
  | cons c segment =>
    have kept : decide (c = '/') = false := decide_eq_false fun same => flat (by simp [same])
    have long := Text.length_lt_trimEnd (p := (· = '/')) kept ('/' :: bucket ++ ['/'])
      (segment ++ '/' :: rest)
    have shape : ('/' :: bucket ++ ['/']) ++ c :: (segment ++ '/' :: rest) =
        '/' :: bucket ++ '/' :: (c :: segment) ++ '/' :: rest := by simp
    intro same
    rw [shape, same] at long
    simp only [List.length_append, List.length_cons, List.length_nil] at long
    omega

/-- The two ways in which a request asks the root of the bucket for more than it may. -/
def Oversteps (method : Method) (path : Text) (query : Option Text) (user : Text) : Prop :=
  rule method path query = .location ∧
      (∃ pair ∈ Query.pairs (query.getD []), Percent.queryComponent pair.1 ≠ "location") ∨
    rule method path query = .passThrough ∧ ¬ RootQuery user query

/-- What reaches the root of the bucket is a question that may be asked of it, except in the two
ways that a request can overstep. -/
theorem rootQuery_iff_not_oversteps {method : Method} {path : Text} {query : Option Text}
    {bucket user : Text} {target : Target}
    (success : Route.target method path query bucket user = .ok target)
    (root : Text.trimEnd (· = '/') target.path = '/' :: bucket) :
    RootQuery user target.query ↔ ¬ Oversteps method path query user := by
  cases routed_of_target success with
  | location which asks =>
    constructor
    · rintro allowed (⟨-, pair, inside, other⟩ | ⟨through, -⟩)
      · rcases rootQuery_nonEmpty?.mp allowed with alone | listing
        · exact other (alone.2 pair inside)
        · exact not_scopedListing user asks listing
      · cases which.symm.trans through
    · intro sound
      refine rootQuery_nonEmpty?.mpr (.inl ⟨asks, fun pair inside => ?_⟩)
      exact Decidable.byContradiction fun other => sound (.inl ⟨which, pair, inside, other⟩)
  | listing which listed =>
    refine iff_of_true (.inr (scopedListing_scopeListing user listed)) ?_
    rintro (⟨location, -⟩ | ⟨through, -⟩)
    · cases which.symm.trans location
    · cases which.symm.trans through
  | stored which split object => exact absurd root (trimEnd_ne_of_split bucket split)
  | passThrough which =>
    rw [rootQuery_nonEmpty?]
    constructor
    · rintro allowed (⟨location, -⟩ | ⟨-, refused⟩)
      · cases which.symm.trans location
      · exact refused allowed
    · intro sound
      exact Classical.byContradiction fun refused => sound (.inr ⟨which, refused⟩)

/-- The listing of a user's own files is asked of the root. -/
theorem rootQuery_listing : RootQuery "alice" (some "prefix=alice%2F") := by
  have success : Route.target .get "/alice" none "inbox" "alice" =
      .ok ⟨"/inbox/", some "prefix=alice%2F"⟩ := rfl
  have listed : rule .get "/alice" none = .listing := rfl
  refine (rootQuery_iff_not_oversteps success rfl).mpr ?_
  rintro (⟨location, -⟩ | ⟨through, -⟩)
  · cases listed.symm.trans location
  · cases listed.symm.trans through

/-- The question for the location takes one for the policy of the bucket along. -/
theorem rootQuery_location_policy :
    ∃ target, Route.target .get "/alice" (some "location&policy") "inbox" "alice" = .ok target ∧
      Text.trimEnd (· = '/') target.path = '/' :: ("inbox" : Text) ∧
      ¬ RootQuery "alice" target.query := by
  refine ⟨⟨"/inbox/", some "location&policy"⟩, rfl, rfl, ?_⟩
  rintro (asks | listing)
  · have named := asks.2 ("policy", []) (by decide)
    exact absurd named (by decide)
  · obtain ⟨pair, inside, named⟩ := listing.restricted
    have absent : Query.has "prefix" (some "location&policy") = false := rfl
    rw [Query.has_iff.mpr ⟨pair, inside, named⟩] at absent
    cases absent

end Route
end UploadInbox
