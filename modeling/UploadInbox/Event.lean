import UploadInbox.Json.Reader

/-!
# Upload events

What is announced about a finished upload, and its written form: an object with five members, the
checksum an object with two. Reading takes the members in any order, each exactly once, and passes
over others; it also takes the values alone, in the order in which they are written.

Source: `Checksum`, and `UploadEvent` with `upload` (`ofUpload`) and its two written forms.
-/
namespace UploadInbox

structure Checksum where
  kind : Text
  value : Text
  deriving DecidableEq, Repr

namespace Checksum

def toJson (checksum : Checksum) : Json :=
  .object [("type", .string checksum.kind), ("value", .string checksum.value)]

end Checksum

structure UploadEvent where
  operation : Text
  user : Text
  filepath : Text
  filesize : UInt64
  checksum : Checksum
  deriving DecidableEq, Repr

namespace UploadEvent

def uploadOperation : Text := "upload"

/-- The kind of checksum that the store's tags count as. -/
def tagKind : Text := "md5"

/-- The event of an upload whose object has the given size and tag. -/
def ofUpload (user filepath : Text) (filesize : UInt64) (tag : Text) : UploadEvent :=
  ⟨uploadOperation, user, filepath, filesize, ⟨tagKind, tag⟩⟩

def toJson (event : UploadEvent) : Json := .object [
  ("operation", .string event.operation),
  ("user", .string event.user),
  ("filepath", .string event.filepath),
  ("filesize", .natural event.filesize),
  ("encoded_checksum", event.checksum.toJson)]

/-- The text that announces an event. -/
def payload (event : UploadEvent) : Text := event.toJson.render

end UploadEvent

/-- The value of the member of a name that occurs exactly once. -/
def Json.only? (name : Text) (value : Json) : Option Json :=
  match value.members name with
  | [member] => some member
  | _ => none

def Checksum.ofJson? : Json → Option Checksum
  | .array [kind, value] => do return ⟨← kind.text?, ← value.text?⟩
  | .object members => do
    let object := Json.object members
    return ⟨← (← object.only? "type").text?, ← (← object.only? "value").text?⟩
  | _ => none

namespace UploadEvent

def ofJson? : Json → Option UploadEvent
  | .array [operation, user, filepath, filesize, checksum] => do
    return ⟨← operation.text?, ← user.text?, ← filepath.text?, ← filesize.uint64?,
      ← Checksum.ofJson? checksum⟩
  | .object members => do
    let object := Json.object members
    return {
      operation := ← (← object.only? "operation").text?
      user := ← (← object.only? "user").text?
      filepath := ← (← object.only? "filepath").text?
      filesize := ← (← object.only? "filesize").uint64?
      checksum := ← Checksum.ofJson? (← object.only? "encoded_checksum") }
  | _ => none

def ofText? (t : Text) : Option UploadEvent := (Json.read? t).bind ofJson?

end UploadEvent
end UploadInbox
