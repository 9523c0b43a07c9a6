import UploadInbox.Proofs.Signing.Canonical
import UploadInbox.Proofs.Signing.Sorted
import UploadInbox.Proofs.Text.Octets

/-!
# What a verifier makes of a request line

A verifier has only the octets that were sent. It splits them, decodes each part to octets and
writes those again, whether or not they are the octets of a text. The canonical forms of a path and
of a query are what it comes to exactly when every part decodes to the octets of a text: a part that
does not is signed as it was written, its percent signs encoded once more.
-/
namespace UploadInbox.Signing

namespace Verifier

def written (wire : Bytes) : Text := Percent.encodeBytes (Percent.decodeBytes wire)

def spaced (wire : Bytes) : Bytes := wire.map fun b => if b = 0x2B then 0x20 else b

/-- The path that a verifier takes as signed; an empty one is the root. -/
def path (wire : Bytes) : Text :=
  if wire.isEmpty then ['/'] else List.intercalate ['/'] ((wire.splitOn 0x2F).map written)

def pair (parameter : Bytes) : Text × Text :=
  (written (spaced (parameter.takeWhile (· ≠ 0x3D))),
    written (spaced ((parameter.dropWhile (· ≠ 0x3D)).drop 1)))

def pairs (wire : Bytes) : List (Text × Text) :=
  ((wire.splitOn 0x26).filter (!·.isEmpty)).map pair

def query (wire : Bytes) : Text :=
  List.intercalate ['&'] (((pairs wire).mergeSort fun a b => toLex a ≤ toLex b).map fun pair =>
    pair.1 ++ ['='] ++ pair.2)

end Verifier

/-- The octets that a text decodes to are those of a text. -/
def Legible (t : Text) : Prop := ∃ name, Percent.decode? t = some name

/-! ## Paths -/

theorem verifier_path_encode (path : Text) :
    Verifier.path (Utf8.encode path) =
      if path.isEmpty then ['/']
      else Text.join ['/'] ((Text.fields '/' path).map fun segment =>
        Percent.encodeBytes (Percent.octets segment)) := by
  have split : (Utf8.encode path).splitOn 0x2F = (Text.fields '/' path).map Utf8.encode :=
    Utf8.splitOn_encode (by decide : '/'.toNat < 128) path
  have empty : (Utf8.encode path).isEmpty = path.isEmpty := by
    rw [Bool.eq_iff_iff, List.isEmpty_iff, List.isEmpty_iff, Utf8.encode_eq_nil_iff]
  rw [Verifier.path, empty, split, List.map_map, Text.join_eq_intercalate]
  rfl

theorem canonicalPath_eq_verifier_iff (path : Text) :
    canonicalPath path = Verifier.path (Utf8.encode path) ↔
      ∀ segment ∈ Text.fields '/' path, Legible segment := by
  have parts : ((Text.fields '/' path).map fun segment =>
        Percent.encode (Percent.component segment)) =
      ((Text.fields '/' path).map fun segment => Percent.encodeBytes (Percent.octets segment)) ↔
      ∀ segment ∈ Text.fields '/' path, Legible segment := by
    rw [List.map_inj_left]
    exact forall₂_congr fun _ _ => Percent.encode_component_eq_iff
  rw [verifier_path_encode, canonicalPath, ← parts]
  by_cases empty : path.isEmpty
  · rw [if_pos empty, if_pos empty, List.isEmpty_iff.mp empty]
    exact iff_of_true rfl rfl
  · rw [if_neg empty, if_neg empty]
    -- No written form has a slash, so that the segments can be read off the whole.
    have bare (write : Text → Bytes) : ∀ part ∈ (Text.fields '/' path).map fun segment =>
        Percent.encodeBytes (write segment), '/' ∉ part := by
      intro part member
      obtain ⟨segment, -, rfl⟩ := List.mem_map.mp member
      exact Percent.not_mem_encodeBytes (by decide) _
    have filled (write : Text → Bytes) : ((Text.fields '/' path).map fun segment =>
        Percent.encodeBytes (write segment)) ≠ [] := by
      simpa using Text.fields_ne_nil '/' path
    let component segment := Utf8.encode (Percent.component segment)
    exact Text.join_inj (filled component) (filled Percent.octets) (bare component)
      (bare Percent.octets)

/-! ## Queries -/

/-- A pair as a parameter writes it. -/
def render (pair : Text × Text) : Text := pair.1 ++ '=' :: pair.2

/-- A pair that can be read off a query: the name ends before the sign that separates it. -/
structure Bare (pair : Text × Text) : Prop where
  name : '=' ∉ pair.1
  parameter : '&' ∉ render pair

theorem bare_encodeBytes (name value : Bytes) :
    Bare (Percent.encodeBytes name, Percent.encodeBytes value) where
  name := Percent.not_mem_encodeBytes (by decide) name
  parameter := by
    have absent (bytes : Bytes) : '&' ∉ Percent.encodeBytes bytes :=
      Percent.not_mem_encodeBytes (by decide) bytes
    simp [render, absent]

/-- The pairs that parameters write are the pairs of the query they make. -/
theorem pairs_join_render {items : List (Text × Text)} (bare : ∀ pair ∈ items, Bare pair) :
    Query.pairs (Text.join ['&'] (items.map render)) = items := by
  cases items with
  | nil => rfl
  | cons first rest =>
    have parameters : Query.parameters (Text.join ['&'] ((first :: rest).map render)) =
        (first :: rest).map render := by
      refine Query.parameters_join (by simp) fun item member => ?_
      obtain ⟨pair, inside, rfl⟩ := List.mem_map.mp member
      exact ⟨by simp [render], (bare pair inside).parameter⟩
    rw [Query.pairs, parameters, List.map_map]
    refine (List.map_congr_left ?_).trans (List.map_id _)
    intro pair member
    exact Query.nameAndValue_append_cons (bare pair member).name

theorem bare_of_mem_sorted {write : Text × Text → Text × Text} (bare : ∀ pair, Bare (write pair))
    (pairs : List (Text × Text)) : ∀ pair ∈ sorted pairLe (pairs.map write), Bare pair := by
  intro pair member
  obtain ⟨original, -, rfl⟩ := List.mem_map.mp ((sorted_perm pairLe _).mem_iff.mp member)
  exact bare original

/-- A name and a value in the written forms of what they decode to. -/
def writtenPair (pair : Text × Text) : Text × Text :=
  (Percent.encodeBytes (Percent.queryOctets pair.1),
    Percent.encodeBytes (Percent.queryOctets pair.2))

theorem bare_canonicalPair (pair : Text × Text) : Bare (canonicalPair pair) :=
  bare_encodeBytes _ _

theorem bare_writtenPair (pair : Text × Text) : Bare (writtenPair pair) := bare_encodeBytes _ _

theorem verifier_pair_encode (parameter : Text) :
    Verifier.pair (Utf8.encode parameter) = writtenPair (Query.nameAndValue parameter) := by
  obtain ⟨name, value⟩ := Utf8.cut_encode_parameter parameter
  rw [Verifier.pair, name, value, Verifier.spaced, Verifier.spaced, ← Utf8.encode_spaced,
    ← Utf8.encode_spaced]
  rfl

theorem verifier_pairs_encode (query : Text) :
    Verifier.pairs (Utf8.encode query) = (Query.pairs query).map writtenPair := by
  have split : (Utf8.encode query).splitOn 0x26 = (Text.fields '&' query).map Utf8.encode :=
    Utf8.splitOn_encode (by decide : '&'.toNat < 128) query
  have filled : ((!·.isEmpty) ∘ Utf8.encode : Text → Bool) = (!·.isEmpty) := by
    funext t
    have empty : (Utf8.encode t).isEmpty = t.isEmpty := by
      rw [Bool.eq_iff_iff, List.isEmpty_iff, List.isEmpty_iff, Utf8.encode_eq_nil_iff]
    exact congrArg (! ·) empty
  rw [Verifier.pairs, split, List.filter_map, filled, List.map_map, Query.pairs, List.map_map]
  exact List.map_congr_left fun parameter _ => verifier_pair_encode parameter

theorem verifier_query_encode (query : Text) :
    Verifier.query (Utf8.encode query) =
      Text.join ['&'] ((sorted pairLe ((Query.pairs query).map writtenPair)).map render) := by
  have sorted_pairs : sorted pairLe ((Query.pairs query).map writtenPair) =
      ((Query.pairs query).map writtenPair).mergeSort fun a b => toLex a ≤ toLex b := by
    exact sorted_eq_of_perm (List.mergeSort_perm _ _)
      (pairwise_mergeSort_by toLex (fun _ _ => decide_eq_true_iff) _)
  rw [Verifier.query, verifier_pairs_encode, ← sorted_pairs, Text.join_eq_intercalate]
  congr 2
  funext pair
  simp [render]

theorem canonicalQuery_eq_verifier_iff (query : Text) :
    canonicalQuery query = Verifier.query (Utf8.encode query) ↔
      ∀ pair ∈ Query.pairs query, Legible (Percent.spaced pair.1) ∧
        Legible (Percent.spaced pair.2) := by
  have legible {t other : Text} (same : Percent.encodeBytes (Percent.queryOctets t) =
      Percent.encode other) : Legible (Percent.spaced t) :=
    ⟨other, Percent.decode?_eq_some.mpr (Percent.encodeBytes_injective same)⟩
  rw [verifier_query_encode]
  change Text.join ['&'] ((sorted pairLe ((Query.pairs query).map canonicalPair)).map render) = _
    ↔ _
  constructor
  · intro same
    have canonical := pairs_join_render
      (bare_of_mem_sorted bare_canonicalPair (Query.pairs query))
    have written := pairs_join_render (bare_of_mem_sorted bare_writtenPair (Query.pairs query))
    have items : sorted pairLe ((Query.pairs query).map canonicalPair) =
        sorted pairLe ((Query.pairs query).map writtenPair) := by
      rw [← canonical, same, written]
    intro pair member
    -- What the verifier makes of the pair is the canonical form of some pair, hence of a text.
    have inside : writtenPair pair ∈ (Query.pairs query).map canonicalPair := by
      rw [← (sorted_perm pairLe _).mem_iff, items, (sorted_perm pairLe _).mem_iff]
      exact List.mem_map_of_mem member
    obtain ⟨other, -, form⟩ := List.mem_map.mp inside
    exact ⟨legible (congrArg Prod.fst form).symm, legible (congrArg Prod.snd form).symm⟩
  · intro sound
    have items : (Query.pairs query).map canonicalPair = (Query.pairs query).map writtenPair := by
      refine List.map_congr_left fun pair member => ?_
      obtain ⟨name, value⟩ := sound pair member
      exact Prod.ext (Percent.encode_component_eq_iff.mpr name)
        (Percent.encode_component_eq_iff.mpr value)
    rw [items]

/-- Path and query are signed as a verifier reads them exactly when all that is encoded in them is
text. -/
theorem canonical_eq_verifier_iff (path query : Text) :
    (canonicalPath path = Verifier.path (Utf8.encode path) ↔
      ∀ segment ∈ Text.fields '/' path, Legible segment) ∧
    (canonicalQuery query = Verifier.query (Utf8.encode query) ↔
      ∀ pair ∈ Query.pairs query, Legible (Percent.spaced pair.1) ∧
        Legible (Percent.spaced pair.2)) :=
  ⟨canonicalPath_eq_verifier_iff path, canonicalQuery_eq_verifier_iff query⟩

/-- An octet that is no text by itself is signed as its three characters. -/
theorem canonicalPath_ne_verifier :
    canonicalPath "/inbox/alice/%FF" ≠ Verifier.path (Utf8.encode "/inbox/alice/%FF") := by
  have signed : canonicalPath "/inbox/alice/%FF" = "/inbox/alice/%25FF" := by decide +kernel
  have recomputed : Verifier.path (Utf8.encode "/inbox/alice/%FF") = "/inbox/alice/%FF" := by
    decide +kernel
  rw [signed, recomputed]
  decide

end UploadInbox.Signing
