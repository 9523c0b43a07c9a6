import UploadInbox.Event
import UploadInbox.Proofs.Json.RoundTrip

/-!
# Events read back

The text that announces an event is an object with the members of the event and no others, and it is
read as that event, whatever its texts and its size are. The members may stand in any order, also
those of the checksum.
-/
namespace UploadInbox

/-! ## Members in any order -/

theorem Json.toldMembers_eq (members : List (Text × Json)) :
    toldMembers members = members.all fun (_, value) => isTold value := by
  induction members with
  | nil => rfl
  | cons member members ih =>
    obtain ⟨name, value⟩ := member
    rw [toldMembers, ih, List.all_cons]

/-- A member that occurs once is found wherever it stands. -/
theorem Json.only?_of_perm {members listed : List (Text × Json)} {name : Text} {value : Json}
    (order : members.Perm listed) (once : (object listed).members name = [value]) :
    (object members).only? name = some value := by
  have same : ((object members).members name).Perm ((object listed).members name) :=
    (order.filter _).map _
  rw [once] at same
  rw [only?, List.perm_singleton.mp same]

theorem Json.toldMembers_of_perm {members listed : List (Text × Json)}
    (order : members.Perm listed) (told : toldMembers listed = true) :
    toldMembers members = true := by
  rw [toldMembers_eq] at told ⊢
  rw [order.all_eq, told]

def Checksum.members (checksum : Checksum) : List (Text × Json) :=
  [("type", .string checksum.kind), ("value", .string checksum.value)]

namespace UploadEvent

/-- The members of an event, of which the last one tells the checksum. -/
def membersWith (event : UploadEvent) (checksum : Json) : List (Text × Json) := [
  ("operation", .string event.operation),
  ("user", .string event.user),
  ("filepath", .string event.filepath),
  ("filesize", .natural event.filesize),
  ("encoded_checksum", checksum)]

/-- An object of the members of an event, in any order. -/
inductive Shows (event : UploadEvent) : Json → Prop
  | object {members checksum : List (Text × Json)}
      (outer : members.Perm (event.membersWith (.object checksum)))
      (inner : checksum.Perm event.checksum.members) : Shows event (.object members)

variable {event : UploadEvent} {json : Json}

theorem shows_toJson (event : UploadEvent) : event.Shows event.toJson := by
  have inner : event.checksum.members.Perm event.checksum.members := .refl _
  exact .object (.refl _) inner

theorem ofJson?_checksum {members : List (Text × Json)} {checksum : Checksum}
    (order : members.Perm checksum.members) :
    Checksum.ofJson? (.object members) = some checksum := by
  have kind : (Json.object members).only? "type" = some (.string checksum.kind) :=
    Json.only?_of_perm order rfl
  have value : (Json.object members).only? "value" = some (.string checksum.value) :=
    Json.only?_of_perm order rfl
  simp only [Checksum.ofJson?, kind, value]
  rfl

/-- An object of the members of an event is read as that event. -/
theorem Shows.ofJson?_eq (shows : event.Shows json) : ofJson? json = some event := by
  cases shows with
  | @object members checksum outer inner =>
    have operation : (Json.object members).only? "operation" = some (.string event.operation) :=
      Json.only?_of_perm outer rfl
    have user : (Json.object members).only? "user" = some (.string event.user) :=
      Json.only?_of_perm outer rfl
    have filepath : (Json.object members).only? "filepath" = some (.string event.filepath) :=
      Json.only?_of_perm outer rfl
    have filesize : (Json.object members).only? "filesize" = some (.natural event.filesize) :=
      Json.only?_of_perm outer rfl
    have encoded : (Json.object members).only? "encoded_checksum" = some (.object checksum) :=
      Json.only?_of_perm outer rfl
    simp only [ofJson?, operation, user, filepath, filesize, encoded, Option.bind_eq_bind,
      Option.bind_some, ofJson?_checksum inner]
    rfl

/-- An object of the members of an event can be written and read back. -/
theorem Shows.read?_render (shows : event.Shows json) : Json.read? json.render = some json := by
  cases shows with
  | @object members checksum outer inner =>
    have nested : Json.toldMembers checksum = true := Json.toldMembers_of_perm inner rfl
    apply Json.read?_render
    apply Json.toldMembers_of_perm outer
    simp [Json.toldMembers, membersWith, Json.isTold, nested]

/-- What announces an event is read as that event. -/
theorem ofText?_payload (event : UploadEvent) :
    Json.read? event.payload = some (.object [
      ("operation", .string event.operation),
      ("user", .string event.user),
      ("filepath", .string event.filepath),
      ("filesize", .natural event.filesize),
      ("encoded_checksum", .object [
        ("type", .string event.checksum.kind), ("value", .string event.checksum.value)])]) ∧
    ofText? event.payload = some event ∧
    (∀ json, event.Shows json → Json.read? json.render = some json) ∧
    ∀ text json, Json.read? text = some json → event.Shows json → ofText? text = some event := by
  have reads (text : Text) (json : Json) (read : Json.read? text = some json)
      (shows : event.Shows json) : ofText? text = some event := by
    rw [ofText?, read, Option.bind_some, shows.ofJson?_eq]
  have written := (shows_toJson event).read?_render
  exact ⟨written, reads _ _ written (shows_toJson event), fun json shows => shows.read?_render,
    reads⟩

/-- An upload of the largest size, of a file whose name has a quote and a line break in it. -/
def lineBreakInName : UploadEvent := .ofUpload "alice" "a\"\n\\é" 18446744073709551615 "t"

/-- The members of its checksum from the last one to the first. -/
def reversedChecksum : List (Text × Json) := [("value", .string "t"), ("type", .string "md5")]

/-- Its members from the last one to the first. -/
def reversedMembers : List (Text × Json) := [
  ("encoded_checksum", .object reversedChecksum),
  ("filesize", .natural 18446744073709551615),
  ("filepath", .string "a\"\n\\é"),
  ("user", .string "alice"),
  ("operation", .string "upload")]

theorem ofText?_reversedMembers :
    lineBreakInName.Shows (.object reversedMembers) ∧
    Json.read? (Json.object reversedMembers).render = some (.object reversedMembers) ∧
    ofText? (Json.object reversedMembers).render = some lineBreakInName := by
  have inner : reversedChecksum.Perm lineBreakInName.checksum.members :=
    List.reverse_perm lineBreakInName.checksum.members
  have outer : reversedMembers.Perm (lineBreakInName.membersWith (.object reversedChecksum)) :=
    List.reverse_perm (lineBreakInName.membersWith (.object reversedChecksum))
  have shows : lineBreakInName.Shows (.object reversedMembers) := .object outer inner
  obtain ⟨-, -, written, reads⟩ := ofText?_payload lineBreakInName
  have read := written (.object reversedMembers) shows
  exact ⟨shows, read, reads _ (.object reversedMembers) read shows⟩

end UploadEvent
end UploadInbox
