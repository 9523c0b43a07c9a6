import UploadInbox.Event
import UploadInbox.Namespace
import UploadInbox.Operation

/-!
# Finished uploads

An upload is finished when the store has taken the whole object: by a put that is not a part, or by
the post that ends an upload in parts. It is announced with the size and the tag that the store
itself reports, never with what the caller says of it.

Source: `is_upload_complete` (`isUpload`) and `notify` of `UploadNotifier` (`announce`).
-/
namespace UploadInbox

structure ObjectFacts where
  size : UInt64
  tag : Text
  deriving DecidableEq, Repr

/-- Where the facts about an object are looked up by its key. -/
abbrev FactSource := Text → Except Error ObjectFacts

abbrev EventSink := UploadEvent → Except Error Unit

namespace Completion

def isSuccess (status : Nat) : Bool := 200 ≤ status && status < 300

/-- Whether an answer of the store with the given status means that an object is now stored. -/
def isUpload (method : Method) (query : Option Text) (status : Nat) : Bool :=
  isSuccess status &&
    match method with
    | .put => !Query.has "partNumber" query
    | .post => Query.has "uploadId" query
    | .get | .delete | .other .. => false

/-- What an announcement did: its result, the keys that were looked up and the events that were
handed over. -/
structure Announcement where
  result : Except Error UploadEvent
  lookups : List Text
  deliveries : List UploadEvent

/-- Announces the object that was stored by a request with the given path. -/
def announce (facts : FactSource) (sink : EventSink) (path : Text) : Announcement :=
  match Namespace.user path with
  | .error e => ⟨.error e, [], []⟩
  | .ok user =>
    match Namespace.objectKey path with
    | .error e => ⟨.error e, [], []⟩
    | .ok key =>
      match facts key with
      | .error e => ⟨.error e, [key], []⟩
      | .ok object =>
        let event := UploadEvent.ofUpload user ('/' :: key) object.size object.tag
        match sink event with
        | .error e => ⟨.error e, [key], [event]⟩
        | .ok () => ⟨.ok event, [key], [event]⟩

end Completion
end UploadInbox
