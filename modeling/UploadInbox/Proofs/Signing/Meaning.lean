import UploadInbox.Proofs.Signing.Verifier

/-!
# What a canonical query says

A query says which values its parameters have under which names, once both are decoded. Its
canonical form says the same, however the query was written, and two queries have one canonical form
exactly when they say the same in some order. The form itself is of one shape: names and values in
unreserved characters and escapes, with an equals sign in every parameter, in ascending order.
-/
namespace UploadInbox

namespace Percent

/-- A name or a value that was encoded is read back, whatever it is. -/
@[simp] theorem queryComponent_encode (t : Text) : queryComponent (encode t) = t := by
  rw [queryComponent, spaced_encode, component_encode]

end Percent

namespace Query

def decodedPair (pair : Text × Text) : Text × Text :=
  (Percent.queryComponent pair.1, Percent.queryComponent pair.2)

/-- What a query says: its names and values, decoded, in the order in which they are written. -/
def meaning (query : Text) : List (Text × Text) := (pairs query).map decodedPair

theorem has_iff_mem_meaning {name : Text} {query : Option Text} :
    has name query = true ↔ ∃ value, (name, value) ∈ meaning (query.getD []) := by
  rw [has_iff]
  constructor
  · rintro ⟨pair, inside, rfl⟩
    exact ⟨Percent.queryComponent pair.2, List.mem_map_of_mem inside⟩
  · rintro ⟨value, said⟩
    obtain ⟨pair, inside, decoded⟩ := List.mem_map.mp said
    exact ⟨pair, inside, congrArg Prod.fst decoded⟩

/-- Names are found in what a query says, in whatever order. -/
theorem has_congr {query other : Option Text}
    (same : (meaning (query.getD [])).Perm (meaning (other.getD []))) (name : Text) :
    has name query = has name other := by
  rw [Bool.eq_iff_iff, has_iff_mem_meaning, has_iff_mem_meaning]
  exact exists_congr fun value => same.mem_iff

end Query

namespace Signing

def encodedPair (pair : Text × Text) : Text × Text :=
  (Percent.encode pair.1, Percent.encode pair.2)

@[simp] theorem decodedPair_canonicalPair (pair : Text × Text) :
    Query.decodedPair (canonicalPair pair) = Query.decodedPair pair := by
  simp only [Query.decodedPair, canonicalPair, Percent.queryComponent_encode]

theorem pairs_canonicalQuery (query : Text) :
    Query.pairs (canonicalQuery query) = canonicalPairs query :=
  pairs_join_render (bare_of_mem_sorted bare_canonicalPair (Query.pairs query))

/-- The canonical form of a query says what the query says. -/
theorem meaning_canonicalQuery (query : Text) :
    (Query.meaning (canonicalQuery query)).Perm (Query.meaning query) := by
  have sorted := (sorted_perm pairLe ((Query.pairs query).map canonicalPair)).map Query.decodedPair
  rw [Query.meaning, pairs_canonicalQuery]
  refine sorted.trans (List.Perm.of_eq ?_)
  rw [List.map_map]
  exact List.map_congr_left fun pair _ => decodedPair_canonicalPair pair

theorem canonicalPairs_eq_of_perm {query other : Text}
    (same : (Query.meaning query).Perm (Query.meaning other)) :
    canonicalPairs query = canonicalPairs other := by
  have written (query : Text) :
      (Query.meaning query).map encodedPair = (Query.pairs query).map canonicalPair := by
    rw [Query.meaning, List.map_map]
    rfl
  have items := same.map encodedPair
  rw [written, written] at items
  exact sorted_eq_of_perm ((sorted_perm pairLe _).trans items.symm) (pairwise_sorted _)

/-- Queries have one canonical form when they say the same in some order, and only then. -/
theorem canonicalQuery_eq_iff {query other : Text} :
    canonicalQuery query = canonicalQuery other ↔
      (Query.meaning query).Perm (Query.meaning other) := by
  constructor
  · intro same
    have said := meaning_canonicalQuery other
    rw [← same] at said
    exact (meaning_canonicalQuery query).symm.trans said
  · intro same
    rw [canonicalQuery, canonicalPairs_eq_of_perm same, canonicalQuery]

/-- Queries as they are signed: every parameter a name, an equals sign and a value, both written in
unreserved characters and escapes, and the parameters in ascending order. -/
structure CanonicallyWritten (query : Text) : Prop where
  joined : query = Text.join ['&'] ((Query.pairs query).map render)
  escaped : ∀ pair ∈ Query.pairs query, Percent.Escaped pair.1 ∧ Percent.Escaped pair.2
  ascending : (Query.pairs query).Pairwise fun a b => toLex a ≤ toLex b

theorem canonicallyWritten_canonicalQuery (query : Text) :
    CanonicallyWritten (canonicalQuery query) := by
  have read := pairs_canonicalQuery query
  constructor
  case joined =>
    rw [read]
    rfl
  case escaped =>
    intro pair member
    rw [read, canonicalPairs, (sorted_perm pairLe _).mem_iff] at member
    obtain ⟨original, -, rfl⟩ := List.mem_map.mp member
    exact ⟨Percent.escaped_encodeBytes _, Percent.escaped_encodeBytes _⟩
  case ascending =>
    rw [read]
    exact pairwise_sorted _

/-- Canonical queries are one for all that say the same in some order, are kept by a second pass, and
are written in unreserved characters and escapes in ascending order. -/
theorem canonicalQuery_canonical (query : Text) :
    (∀ other, canonicalQuery query = canonicalQuery other ↔
      (Query.meaning query).Perm (Query.meaning other)) ∧
    canonicalQuery (canonicalQuery query) = canonicalQuery query ∧
    CanonicallyWritten (canonicalQuery query) := by
  refine ⟨fun other => canonicalQuery_eq_iff, ?_, canonicallyWritten_canonicalQuery query⟩
  exact canonicalQuery_eq_iff.mpr (meaning_canonicalQuery query)

example : canonicalQuery "b=1&&a&b=%31&a=+&%62=%ff" = "a=&a=%20&b=%25ff&b=1&b=1" := by decide +kernel

end Signing
end UploadInbox
