import UploadInbox.Proofs.Signing.Meaning
import UploadInbox.Proofs.Signing.Names

/-!
# Canonical requests taken apart

A canonical request is lines: the method, the path and the query, then those of the header fields,
of which there may be none, an empty one, the names, and the digest of the payload. No path, query or
header value has a line break once it is in canonical form, so that the lines are where they were
put, and two canonical requests are equal only when all of their parts are.
-/
namespace UploadInbox.Signing

/-! ## Header blocks read back -/

/-- A header field as it is signed: its value with one space for every run of blanks. -/
def collapsedField (field : Text × Text) : Text × Text := (field.1, Blank.collapse field.2)

/-- Name and value of a header line. -/
def readLine (line : Text) : Text × Text := (Text.cut? ':' line).getD (line, [])

/-- The fields of a header block. -/
def readBlock (block : Text) : List (Text × Text) :=
  if block.isEmpty then [] else (Text.fields '\n' block).map readLine

section

variable {fields : SortedFields} (named : ∀ field ∈ fields, Headers.isName field.1 = true)

include named

theorem readLine_headerLine {field : Text × Text} (member : field ∈ fields) :
    readLine (headerLine field) = collapsedField field := by
  have colon : ':' ∉ field.1 := Headers.not_mem_name (by decide) (named field member)
  rw [readLine, headerLine_eq (named field member), Text.cut?_append_cons ':' _ _ colon]
  rfl

theorem headerBlock_ne_nil (filled : fields ≠ []) : headerBlock fields ≠ [] := by
  intro empty
  have lines := fields_headerBlock named filled
  rw [empty] at lines
  -- An empty block would be one line that is empty, and every line has a colon.
  obtain ⟨field, -, nothing⟩ := List.map_eq_singleton_iff.mp lines.symm
  simp [headerLine] at nothing

/-- The block of header lines gives back the fields as they are signed. -/
theorem readBlock_headerBlock : readBlock (headerBlock fields) = fields.map collapsedField := by
  cases fields with
  | nil => rfl
  | cons first others =>
    have filled := headerBlock_ne_nil named (List.cons_ne_nil first others)
    rw [readBlock, if_neg (by simpa using filled),
      fields_headerBlock named (List.cons_ne_nil first others), List.map_map]
    apply List.map_congr_left
    intro field member
    exact readLine_headerLine named member

theorem headerBlock_eq : headerBlock fields =
    Text.join ['\n'] ((fields.map collapsedField).map fun field => field.1 ++ ':' :: field.2) := by
  rw [headerBlock, List.map_map]
  congr 1
  apply List.map_congr_left
  intro field member
  exact headerLine_eq (named field member)

theorem signedNames_eq_collapsed :
    signedNames fields = Text.join [';'] ((fields.map collapsedField).map (·.1)) := by
  rw [signedNames_eq named, List.map_map]
  rfl

end

/-! ## Lines -/

theorem newline_not_mem_canonicalPath (path : Text) : '\n' ∉ canonicalPath path := by
  rw [canonicalPath_eq]
  apply Text.not_mem_join (by decide)
  intro part member
  obtain ⟨segment, -, rfl⟩ := List.mem_map.mp member
  exact Percent.not_mem_encode (by decide) segment

theorem newline_not_mem_canonicalQuery (query : Text) : '\n' ∉ canonicalQuery query := by
  have written := canonicallyWritten_canonicalQuery query
  have plain {t : Text} (escaped : Percent.Escaped t) : '\n' ∉ t :=
    not_mem_of_class escaped.isWritten (by decide)
  rw [written.joined]
  apply Text.not_mem_join (by decide)
  intro part member
  obtain ⟨pair, said, rfl⟩ := List.mem_map.mp member
  obtain ⟨name, value⟩ := written.escaped pair said
  simp [render, plain name, plain value]

/-- A subject whose names are names, and of which no part that is signed as it stands breaks a line.
Path, query and values may hold anything. -/
structure Subject.WellFormed (subject : Subject) : Prop where
  method : '\n' ∉ subject.method
  payloadHash : '\n' ∉ subject.payloadHash
  named : ∀ field ∈ subject.headers, Headers.isName field.1 = true

/-- The lines of a canonical request. -/
theorem fields_canonical {subject : Subject} (formed : subject.WellFormed) :
    Text.fields '\n' subject.canonical =
      subject.method :: canonicalPath subject.path :: canonicalQuery subject.query ::
        (Text.fields '\n' (headerBlock subject.headers) ++
          [[], signedNames subject.headers, subject.payloadHash]) := by
  have names : '\n' ∉ signedNames subject.headers :=
    not_mem_signedNames formed.named (by decide) (by decide)
  have shape : subject.canonical =
      subject.method ++ '\n' :: (canonicalPath subject.path ++ '\n' ::
        (canonicalQuery subject.query ++ '\n' :: (headerBlock subject.headers ++ '\n' ::
          ([] ++ '\n' :: (signedNames subject.headers ++ '\n' :: subject.payloadHash))))) := by
    simp [Subject.canonical]
  rw [shape, Text.fields_append_cons '\n' _ _ formed.method,
    Text.fields_append_cons '\n' _ _ (newline_not_mem_canonicalPath subject.path),
    Text.fields_append_cons '\n' _ _ (newline_not_mem_canonicalQuery subject.query),
    Text.fields_append_sep, Text.fields_append_cons '\n' [] _ (by simp),
    Text.fields_append_cons '\n' _ _ names, Text.fields_of_not_mem '\n' _ formed.payloadHash]

/-- All that a canonical request says of a subject. -/
structure Told where
  method : Text
  path : Text
  query : Text
  /-- The names of the header fields with their values, in order. -/
  headers : List (Text × Text)
  payloadHash : Text
  deriving DecidableEq

/-- What the canonical request of a subject says. -/
def Subject.told (subject : Subject) : Told where
  method := subject.method
  path := canonicalPath subject.path
  query := canonicalQuery subject.query
  headers := subject.headers.map collapsedField
  payloadHash := subject.payloadHash

/-- A canonical request says one thing: of two subjects it is the same exactly when their methods,
canonical paths, canonical queries, names, collapsed values and payload hashes are. -/
theorem canonical_eq_iff_told {subject other : Subject} (formed : subject.WellFormed)
    (formed_other : other.WellFormed) :
    subject.canonical = other.canonical ↔ subject.told = other.told := by
  constructor
  · intro same
    have lines := congrArg (Text.fields '\n') same
    rw [fields_canonical formed, fields_canonical formed_other] at lines
    simp only [List.cons.injEq] at lines
    obtain ⟨method, path, query, rest⟩ := lines
    -- Three lines follow the block however many lines it has, so that it ends in the same place.
    obtain ⟨block, last⟩ := List.append_inj' rest rfl
    simp only [List.cons.injEq, true_and, and_true] at last
    have headers : subject.headers.map collapsedField = other.headers.map collapsedField := by
      rw [← readBlock_headerBlock formed.named, Text.fields_injective block,
        readBlock_headerBlock formed_other.named]
    rw [Subject.told, Subject.told, method, path, query, headers, last.2]
  · intro same
    simp only [Subject.told, Told.mk.injEq] at same
    obtain ⟨method, path, query, headers, payloadHash⟩ := same
    rw [Subject.canonical, Subject.canonical, method, path, query, payloadHash,
      headerBlock_eq formed.named, headerBlock_eq formed_other.named, headers,
      signedNames_eq_collapsed formed.named, signedNames_eq_collapsed formed_other.named, headers]

/-- A note that would add a header of its own if a value could break a line. -/
def smuggling : Subject :=
  ⟨"PUT", "/inbox/alice/a%0Ab", "partNumber=1",
    [("host", "store:9000"), ("x-amz-meta-note", "one\nx-amz-tagging:public")], "UNSIGNED-PAYLOAD"⟩

/-- The request with that header. -/
def tagging : Subject :=
  { smuggling with
    headers := [("host", "store:9000"), ("x-amz-meta-note", "one"), ("x-amz-tagging", "public")] }

theorem canonical_smuggling_ne_tagging :
    smuggling.WellFormed ∧ tagging.WellFormed ∧ smuggling.canonical ≠ tagging.canonical := by
  have formed : smuggling.WellFormed := ⟨by decide, by decide, List.all_eq_true.mp (by decide)⟩
  have formed_other : tagging.WellFormed := ⟨by decide, by decide, List.all_eq_true.mp (by decide)⟩
  refine ⟨formed, formed_other, fun same => ?_⟩
  have told := (canonical_eq_iff_told formed formed_other).mp same
  exact absurd (congrArg Told.headers told) (by decide)

end UploadInbox.Signing
