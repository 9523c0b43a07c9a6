import UploadInbox.Proofs.Percent
import UploadInbox.Proofs.Text.Fields
import UploadInbox.Signing.Canonical

/-!
# What a canonical path says

A path says which segments stand between its slashes, once each is decoded; the empty path is the
root. Its canonical form says the same with as many slashes, since no slash comes into being or gets
lost when a segment is written again, and two paths have one canonical form exactly when they say the
same.
-/
namespace UploadInbox.Signing

/-- A segment of a path in its one written form. -/
def canonicalSegment (segment : Text) : Text := Percent.encode (Percent.component segment)

/-- A path, where the empty one is the root. -/
def rooted (path : Text) : Text := if path.isEmpty then ['/'] else path

def segments (path : Text) : List Text := (Text.fields '/' (rooted path)).map Percent.component

theorem rooted_of_ne_nil {path : Text} (filled : path ≠ []) : rooted path = path := by
  unfold rooted
  simp [filled]

theorem rooted_ne_nil (path : Text) : rooted path ≠ [] := by
  unfold rooted
  split
  next => simp
  next filled => simpa using filled

theorem canonicalSegment_of_decode? {segment name : Text}
    (decoded : Percent.decode? segment = some name) :
    canonicalSegment segment = Percent.encode name := by
  rw [canonicalSegment, Percent.component_of_decode? decoded]

theorem eq_nil_of_canonicalSegment {segment : Text} (empty : canonicalSegment segment = []) :
    segment = [] := by
  have nothing : Percent.encode [] = [] := rfl
  rw [canonicalSegment, ← nothing] at empty
  exact Percent.component_eq_nil_iff.mp (Percent.encode_injective empty)

/-- The canonical form of a path is made of what the path says. -/
theorem canonicalPath_eq (path : Text) :
    canonicalPath path = Text.join ['/'] ((segments path).map Percent.encode) := by
  unfold canonicalPath segments rooted
  rw [List.map_map]
  split
  · rfl
  · rfl

/-- The canonical form of a path has the segments of the path, each in its one written form. -/
theorem fields_canonicalPath (path : Text) :
    Text.fields '/' (canonicalPath path) =
      (Text.fields '/' (rooted path)).map canonicalSegment := by
  have written : (segments path).map Percent.encode =
      (Text.fields '/' (rooted path)).map canonicalSegment := by
    rw [segments, List.map_map]
    rfl
  rw [canonicalPath_eq, written]
  apply Text.fields_join
  · simpa using Text.fields_ne_nil '/' (rooted path)
  · intro part member
    obtain ⟨segment, -, rfl⟩ := List.mem_map.mp member
    exact Percent.not_mem_encode (by decide) _

theorem canonicalPath_ne_nil (path : Text) : canonicalPath path ≠ [] := by
  intro empty
  have parts := fields_canonicalPath path
  rw [empty] at parts
  -- The one segment of an empty form is empty, and so is a path of this one segment.
  obtain ⟨segment, only, nothing⟩ := List.map_eq_singleton_iff.mp parts.symm
  obtain rfl := eq_nil_of_canonicalSegment nothing
  have path_empty : rooted path = [] := by
    rw [← Text.join_fields '/' (rooted path), only]
    rfl
  exact rooted_ne_nil path path_empty

/-- The canonical form of a path says what the path says. -/
theorem segments_canonicalPath (path : Text) : segments (canonicalPath path) = segments path := by
  rw [segments, rooted_of_ne_nil (canonicalPath_ne_nil path), fields_canonicalPath, List.map_map,
    segments]
  apply List.map_congr_left
  intro segment _
  rw [Function.comp_apply, canonicalSegment, Percent.component_encode]

/-- Paths have one canonical form when they say the same, and only then. -/
theorem canonicalPath_eq_iff {path other : Text} :
    canonicalPath path = canonicalPath other ↔ segments path = segments other := by
  constructor
  · intro same
    rw [← segments_canonicalPath path, same, segments_canonicalPath]
  · intro same
    rw [canonicalPath_eq, same, ← canonicalPath_eq]

theorem count_slash_canonicalPath (path : Text) :
    (canonicalPath path).count '/' = (rooted path).count '/' := by
  have canonical := Text.length_fields '/' (canonicalPath path)
  have given := Text.length_fields '/' (rooted path)
  rw [fields_canonicalPath, List.length_map] at canonical
  omega

theorem escaped_of_mem_fields_canonicalPath {path segment : Text}
    (member : segment ∈ Text.fields '/' (canonicalPath path)) : Percent.Escaped segment := by
  rw [fields_canonicalPath] at member
  obtain ⟨original, -, rfl⟩ := List.mem_map.mp member
  exact Percent.escaped_encodeBytes _

/-- Canonical paths are one for all that say the same, are kept by a second pass, have the slashes of
the path, and are written in unreserved characters and escapes between them. -/
theorem canonicalPath_canonical (path : Text) :
    (∀ other, canonicalPath path = canonicalPath other ↔ segments path = segments other) ∧
    canonicalPath (canonicalPath path) = canonicalPath path ∧
    (canonicalPath path).count '/' = (rooted path).count '/' ∧
    ∀ segment ∈ Text.fields '/' (canonicalPath path), Percent.Escaped segment := by
  refine ⟨fun other => canonicalPath_eq_iff, ?_, count_slash_canonicalPath path, ?_⟩
  · exact canonicalPath_eq_iff.mpr (segments_canonicalPath path)
  · intro segment member
    exact escaped_of_mem_fields_canonicalPath member

example : canonicalPath "/a%2Fb/%252F/%ff/+%" = "/a%2Fb/%252F/%25ff/%2B%25" := by decide +kernel

end UploadInbox.Signing
