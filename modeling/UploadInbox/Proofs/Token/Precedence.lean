import UploadInbox.Proofs.Http.Headers
import UploadInbox.Proofs.Http.SortedFields
import UploadInbox.Proofs.Token.Extraction

/-!
# Which token counts

A request may carry several texts that look like tokens. Under each name the last text counts,
values that are no text left aside; that of the session goes before a bearer's, unless only blanks
are in it. The token is read off the fields as they were sent, whatever the case of their names, and
off the fields of these two names alone. In which order the fields are gone through makes no
difference.
-/
namespace UploadInbox

/-- The fields of a request as they were sent, their names kept in lowercase. -/
def Headers.received? (sent : List (Text × Bytes)) : Option Headers :=
  sent.foldlM (fun headers field => headers.add? field.1 field.2) .empty

namespace Token

/-- The last text under a name in fields as they were sent. -/
def lastText? (name : Text) (sent : List (Text × Bytes)) : Option Text :=
  ((sent.filter fun field => Text.lowerAscii field.1 = name).filterMap
    fun field => Headers.visible? field.2).getLast?

/-- No session is presented: there is no text of one, or nothing but blanks is in it. -/
def Sessionless (sent : List (Text × Bytes)) : Prop :=
  ∀ value, lastText? sessionHeader sent = some value → Blank.trim value = []

/-- The token that fields present. -/
inductive Presents (sent : List (Text × Bytes)) : Option Text → Prop
  /-- That of the session comes first. -/
  | session {value : Text} (last : lastText? sessionHeader sent = some value)
    (filled : Blank.trim value ≠ []) : Presents sent (some (Blank.trim value))
  /-- Without one it is that of the bearer. -/
  | bearer {rest : Text} (sessionless : Sessionless sent)
    (last : lastText? "authorization" sent = some ("Bearer " ++ rest))
    (filled : Blank.trim rest ≠ []) : Presents sent (some (Blank.trim rest))
  | missing (sessionless : Sessionless sent)
    (blank : ∀ rest : Text, lastText? "authorization" sent = some ("Bearer " ++ rest) →
      Blank.trim rest = []) : Presents sent none

variable {headers : Headers} {sent : List (Text × Bytes)} {token : Option Text}

/-! ## Values that are looked up -/

/-- The fields of a request are found under their names in lowercase. -/
theorem lastText?_fields (headers : Headers) (name : Text) :
    lastText? name headers.fields =
      ((headers.values name).filterMap Headers.visible?).getLast? := by
  have spelled : headers.fields.filter (fun field => Text.lowerAscii field.1 = name) =
      headers.fields.filter fun field => field.1 = name :=
    List.filter_congr fun field member => by rw [Headers.lowerAscii_of_mem member]
  rw [lastText?, spelled, Headers.values, List.filterMap_map]
  rfl

/-- Whatever the order in which fields are gone through, a look-up gives the last text of the
name. -/
theorem value?_of_perm {fields : SortedFields} (order : fields.Perm headers.lastVisible)
    (name : Text) (lower : Text.lowerAscii name = name) :
    value? name fields = lastText? name headers.fields := by
  have ascending := SortedFields.ascending_ofList headers.visible
  have single : ∀ field ∈ SortedFields.ofList headers.visible,
      decide (Text.lowerAscii field.1 = Text.lowerAscii name) = true ↔ field.1 = name := by
    intro field member
    have named := Headers.isName_of_mem_visible (SortedFields.mem_ofList member)
    rw [decide_eq_true_iff, Headers.lowerAscii_name named, lower]
  rw [value?, SortedFields.find?_of_perm ascending order single, lastText?_fields,
    SortedFields.lookup_ofList, SortedFields.valuesOf_visible]

/-- Names in any case are received in lowercase, in the order in which they were sent. -/
theorem fields_of_received? (received : Headers.received? sent = some headers) :
    headers.fields = sent.map fun field => (Text.lowerAscii field.1, field.2) := by
  have added (start : Headers)
      (folded : sent.foldlM (fun headers field => headers.add? field.1 field.2) start =
        some headers) :
      headers.fields =
        start.fields ++ sent.map fun field => (Text.lowerAscii field.1, field.2) := by
    clear received
    induction sent generalizing start with
    | nil =>
      cases folded
      rw [List.map_nil, List.append_nil]
    | cons field rest ih =>
      rw [List.foldlM_cons] at folded
      obtain ⟨next, one, folded⟩ := Option.bind_eq_some_iff.mp folded
      rw [Headers.add?] at one
      split at one
      next valid =>
        split at one
        next =>
          cases one
          rw [ih _ folded, Headers.append, List.append_assoc]
          rfl
        next => cases one
      next => cases one
  exact added .empty received

theorem lastText?_of_received? (received : Headers.received? sent = some headers) (name : Text) :
    lastText? name headers.fields = lastText? name sent := by
  have lower : (fun field : Text × Bytes => decide (Text.lowerAscii field.1 = name)) ∘
      (fun field : Text × Bytes => (Text.lowerAscii field.1, field.2)) =
      fun field => decide (Text.lowerAscii field.1 = name) := by
    funext field
    simp only [Function.comp_apply, Text.lowerAscii_lowerAscii]
  rw [lastText?, fields_of_received? received, List.filter_map, List.filterMap_map, lower]
  rfl

/-! ## Tokens that are presented -/

/-- What is presented depends on the last texts of the two names alone. -/
theorem presents_congr {other : List (Text × Bytes)}
    (session : lastText? sessionHeader other = lastText? sessionHeader sent)
    (authorization : lastText? "authorization" other = lastText? "authorization" sent) :
    Presents other token ↔ Presents sent token := by
  have onward {first second : List (Text × Bytes)}
      (session : lastText? sessionHeader first = lastText? sessionHeader second)
      (authorization : lastText? "authorization" first = lastText? "authorization" second)
      (presents : Presents first token) : Presents second token := by
    have sessionless (none_there : Sessionless first) : Sessionless second := by
      intro value last
      exact none_there value (session.trans last)
    cases presents with
    | session last filled => exact .session (session ▸ last) filled
    | bearer none_there last filled =>
      exact .bearer (sessionless none_there) (authorization ▸ last) filled
    | missing none_there blank =>
      exact .missing (sessionless none_there) fun rest last => blank rest (authorization.trans last)
  exact ⟨onward session authorization, onward session.symm authorization.symm⟩

theorem Presents.unique {other : Option Text} (presents : Presents sent token)
    (also : Presents sent other) : token = other := by
  cases presents with
  | session last filled =>
    cases also with
    | session last' filled' =>
      rw [last] at last'
      cases last'
      rfl
    | bearer sessionless last' filled' => exact absurd (sessionless _ last) filled
    | missing sessionless blank => exact absurd (sessionless _ last) filled
  | bearer sessionless last filled =>
    cases also with
    | session last' filled' => exact absurd (sessionless _ last') filled'
    | bearer sessionless' last' filled' =>
      rw [last] at last'
      have same := List.append_cancel_left (Option.some.inj last')
      rw [same]
    | missing sessionless' blank => exact absurd (blank _ last) filled
  | missing sessionless blank =>
    cases also with
    | session last' filled' => exact absurd (sessionless _ last') filled'
    | bearer sessionless' last' filled' => exact absurd (blank _ last') filled'
    | missing sessionless' blank' => rfl

theorem trimmed?_of_filled {t : Text} (filled : Blank.trim t ≠ []) :
    trimmed? t = some (Blank.trim t) := by
  simp [trimmed?, filled]

theorem trimmed?_of_blank {t : Text} (blank : Blank.trim t = []) : trimmed? t = none := by
  simp [trimmed?, blank]

/-- What is extracted is presented. -/
theorem presents_extract? {fields : SortedFields} (order : fields.Perm headers.lastVisible) :
    Presents headers.fields (extract? fields) := by
  have session := value?_of_perm order sessionHeader (by decide)
  have authorization := value?_of_perm order "authorization" (by decide)
  rw [extract?, fromHeader?, fromBearer?, session, authorization]
  -- Either the session has a token, or what the bearer has counts.
  by_cases filled : ∃ value, lastText? sessionHeader headers.fields = some value ∧
      Blank.trim value ≠ []
  · obtain ⟨value, last, filled⟩ := filled
    rw [last, Option.bind_some, trimmed?_of_filled filled, Option.some_or]
    exact .session last filled
  have sessionless : Sessionless headers.fields := by
    intro value last
    by_contra present
    exact filled ⟨value, last, present⟩
  have no_session : (lastText? sessionHeader headers.fields).bind trimmed? = none := by
    rw [Option.bind_eq_none_iff]
    exact fun value last => trimmed?_of_blank (sessionless value last)
  rw [no_session, Option.none_or]
  cases borne : (lastText? "authorization" headers.fields).bind (Text.dropPrefix? "Bearer ") with
  | none =>
    refine .missing sessionless fun rest last => ?_
    rw [last, Option.bind_some, Text.dropPrefix?_append] at borne
    cases borne
  | some rest =>
    obtain ⟨value, last, dropped⟩ := Option.bind_eq_some_iff.mp borne
    rw [Text.dropPrefix?_eq_some dropped] at last
    rw [Option.bind_some]
    by_cases blank : Blank.trim rest = []
    · rw [trimmed?_of_blank blank]
      refine .missing sessionless fun other last' => ?_
      rw [last] at last'
      rw [← List.append_cancel_left (Option.some.inj last')]
      exact blank
    · rw [trimmed?_of_filled blank]
      exact .bearer sessionless last blank

/-- The token of a request is the one that its fields present, in whatever order they are gone
through. It is presented by the fields as they were sent, names in any case, and by every request
with the same values under the two names. -/
theorem extract?_eq_iff_presents {fields : SortedFields}
    (order : fields.Perm headers.lastVisible) (token : Option Text) :
    (extract? fields = token ↔ Presents headers.fields token) ∧
    (∀ sent, Headers.received? sent = some headers →
      (Presents headers.fields token ↔ Presents sent token)) ∧
    ∀ other : Headers, (∀ name ∈ [sessionHeader, ("authorization" : Text)],
        other.values name = headers.values name) →
      (Presents other.fields token ↔ Presents headers.fields token) := by
  have presents := presents_extract? order
  refine ⟨⟨fun same => same ▸ presents, presents.unique⟩, fun sent received => ?_,
    fun other same => ?_⟩
  · exact presents_congr (lastText?_of_received? received _) (lastText?_of_received? received _)
  · have texts (name : Text) (inside : name ∈ [sessionHeader, ("authorization" : Text)]) :
        lastText? name other.fields = lastText? name headers.fields := by
      rw [lastText?_fields, lastText?_fields, same name inside]
    exact presents_congr (texts _ (by simp)) (texts _ (by simp))

/-! ## A request with several tokens -/

/-- A request whose session is blank, with two bearers and an authorization that is no text. -/
def twoBearersSent : List (Text × Bytes) := [
  ("Authorization", Utf8.encode "Bearer early"), ("X-Amz-Security-Token", Utf8.encode " \t"),
  ("HOST", Utf8.encode "inbox"), ("authorization", Utf8.encode "Bearer  late "),
  ("AUTHORIZATION", [0xFF])]

def twoBearers : Headers where
  fields := [
    ("authorization", Utf8.encode "Bearer early"), ("x-amz-security-token", Utf8.encode " \t"),
    ("host", Utf8.encode "inbox"), ("authorization", Utf8.encode "Bearer  late "),
    ("authorization", [0xFF])]
  named := by decide

/-- The fields that matter of that request, the session first. -/
def twoBearersSessionFirst : Headers where
  fields := [
    ("x-amz-security-token", Utf8.encode " \t"), ("authorization", Utf8.encode "Bearer early"),
    ("authorization", Utf8.encode "Bearer  late "), ("authorization", [0xFF])]
  named := by decide

theorem presents_twoBearers :
    twoBearers.lastVisible.reverse.Perm twoBearers.lastVisible ∧
    extract? twoBearers.lastVisible.reverse = some "late" ∧
    Headers.received? twoBearersSent = some twoBearers ∧ Presents twoBearersSent (some "late") ∧
    (∀ name ∈ [sessionHeader, ("authorization" : Text)],
      twoBearersSessionFirst.values name = twoBearers.values name) ∧
    Presents twoBearersSessionFirst.fields (some "late") := by
  have order := List.reverse_perm twoBearers.lastVisible
  have extracted : extract? twoBearers.lastVisible.reverse = some "late" := by decide
  have received : Headers.received? twoBearersSent = some twoBearers := by rfl
  have same : ∀ name ∈ [sessionHeader, ("authorization" : Text)],
      twoBearersSessionFirst.values name = twoBearers.values name := by decide
  obtain ⟨agree, asSent, alike⟩ := extract?_eq_iff_presents order (some "late")
  have presents := agree.mp extracted
  exact ⟨order, extracted, received, (asSent _ received).mp presents, same,
    (alike _ same).mpr presents⟩

end Token
end UploadInbox
