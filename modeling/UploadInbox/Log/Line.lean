import UploadInbox.Json.Basic
import UploadInbox.Log

/-!
# Lines of a log

A record is written on one line: as an object with its values under their own names, or as plain
text that begins with time and level and ends with the values.

Source: the two formats of `init_subscriber`.
-/
namespace UploadInbox

def LogValue.toJson : LogValue → Json
  | text t => .string t
  | number n => .natural (UInt64.ofNat n)
  | flag b => .bool b

namespace LogRecord

/-- A record as an object, after what is known besides it. -/
def toJson (record : LogRecord) (known : List (String × Json) := []) : Json :=
  .ofMembers <| known ++ [
    ("level", .string record.level.name),
    ("fields", .ofMembers [("message", .string record.message)]
      (record.fields.map fun (name, value) => (name, value.toJson))),
    ("target", .string record.target)]

def toText (record : LogRecord) (time : Text) : Text :=
  let level := record.level.name
  time ++ ' ' :: List.replicate (5 - level.length) ' ' ++ level ++ ' ' :: record.target ++
    ": " ++ record.message ++
    record.fields.flatMap fun (name, value) => ' ' :: name ++ '=' :: value.shown

def line (format : LogFormat) (time : Text) (record : LogRecord) : Text :=
  match format with
  | .json => (record.toJson [("timestamp", .string time)]).render
  | .text => record.toText time

end LogRecord
end UploadInbox
