import UploadInbox.Failure
import UploadInbox.Inbox.Admission

/-!
# The passage of a request

What happens at each point of a request's way through the inbox: before it goes to the store, when
it is made over, when the store has answered, when something breaks off, and at its end. A caller is
answered at most once; whatever becomes of the announcement of an upload, the caller gets the answer
of the store.

Source: `request_filter` with `respond_error` (`filter`), `response_filter` with
`on_backend_response` (`storeAnswered`), `fail_to_proxy` (`failed`) and `logging`
(`finishedRecords`).
-/
namespace UploadInbox

/-- An answer of the inbox's own. -/
structure Response where
  status : Nat
  headers : List (Text × Text)
  body : Text
  deriving DecidableEq, Repr

/-- What has been answered on a connection to a caller. -/
structure Session where
  /-- The status of the answer, if there was one. -/
  answered : Option Nat
  deriving DecidableEq, Repr

namespace Session

def fresh : Session := ⟨none⟩

/-- Answers, unless there was an answer already: what the caller receives, and the connection. -/
def write (session : Session) (response : Response) : Option Response × Session :=
  match session.answered with
  | some _ => (none, session)
  | none => (some response, ⟨some response.status⟩)

end Session

namespace Response

def ofError (e : Error) (context : Context) : Response :=
  let body := e.document context.path context.requestId
  ⟨e.status,
    [("content-type", "application/xml"),
      ("content-length", Decimal.ofNat (Utf8.encode body).length),
      ("x-amz-request-id", context.requestId)],
    body⟩

/-- An answer that is no more than its status. -/
def ofStatus (status : Nat) : Response := ⟨status, [("content-length", "0")], []⟩

end Response

structure Filtered where
  /-- Whether the request is answered and goes no further. -/
  answered : Bool
  response : Option Response
  session : Session
  admission : Admission
  records : List LogRecord

structure StoreAnswered where
  event : Option UploadEvent
  context : Context
  lookups : List Text
  deliveries : List UploadEvent
  records : List LogRecord

structure Failed where
  status : Nat
  response : Option Response
  session : Session

namespace Inbox

def rejectedRecord (context : Context) (e : Error) : LogRecord :=
  ⟨.warn, logTarget, "Request rejected",
    [("method", .text context.method), ("path", .text context.path),
      ("operation", .text (context.operationOr "unknown")), ("status_code", .number e.status),
      ("error", .text e.message)]⟩

/-- The admission of a request, which answers it if it is refused. -/
def filter (inbox : Inbox) (request : Request) (context : Context) (session : Session) :
    Filtered :=
  let admission := inbox.examine request context
  match admission.result with
  | .ok () => ⟨false, none, session, admission, admission.records⟩
  | .error e =>
    let (response, session) := session.write (Response.ofError e admission.context)
    ⟨true, response, session, admission,
      admission.records ++ [rejectedRecord admission.context e]⟩

def unpreparedRecord (e : Error) : LogRecord :=
  ⟨.error, logTarget, "Failed to prepare backend request", [("error", .text e.message)]⟩

def announcementRecord (context : Context) : Except Error UploadEvent → LogRecord
  | .ok event =>
    ⟨.info, logTarget, "Upload completed",
      [("user", .text event.user), ("filepath", .text event.filepath),
        ("filesize", .number event.filesize.toNat), ("checksum", .text event.checksum.value)]⟩
  | .error (.publish detail) =>
    ⟨.warn, logTarget, "Upload event was not delivered",
      [("path", .text context.path), ("error", .text (Error.publish detail).message)]⟩
  | .error e =>
    ⟨.error, logTarget, "Skipping upload event",
      [("path", .text context.path), ("error", .text e.message)]⟩

/-- Whether an answer of the store to the request of a context ends an upload. -/
def endsUpload (context : Context) (status : Nat) : Bool :=
  match Method.ofName? context.method with
  | some method => Completion.isUpload method context.query status
  | none => false

/-- The answer of the store, after which a finished upload is announced. -/
def storeAnswered (inbox : Inbox) (status : Nat) (context : Context) : StoreAnswered :=
  let context := { context with storeStatus := some status }
  if endsUpload context status then
    let announcement := Completion.announce inbox.facts inbox.sink context.path
    ⟨announcement.result.toOption, context, announcement.lookups, announcement.deliveries,
      [announcementRecord context announcement.result]⟩
  else ⟨none, context, [], [], []⟩

/-- The answer to a failure, unless the caller is gone or was answered before. -/
def failed (failure : Failure) (context : Context) (session : Session) : Failed :=
  let status := failure.answerStatus
  if status = 0 then ⟨status, none, session⟩ -- the caller is gone
  else
    let response :=
      if status = 500 then Response.ofError (.backendForward "backend request failed") context
      else Response.ofStatus status
    let (response, session) := session.write response
    ⟨status, response, session⟩

def brokenOffRecord (context : Context) (failure : Failure) : LogRecord :=
  ⟨.warn, logTarget, "Request ended with proxy error",
    [("method", .text context.method), ("path", .text context.path),
      ("error", .text failure.shown)]⟩

def completedRecord (context : Context) (session : Session) : LogRecord :=
  ⟨.info, logTarget, "Request completed",
    [("method", .text context.method), ("path", .text context.path),
      ("user", .text (context.user.getD "-")), ("operation", .text (context.operationOr "-")),
      ("status_code", .number (session.answered.getD 500))]⟩

/-- The records at the end of a request, which a failure may have broken off. -/
def finishedRecords (failure : Option Failure) (context : Context) (session : Session) :
    List LogRecord :=
  (failure.map (brokenOffRecord context)).toList ++ [completedRecord context session]

end Inbox
end UploadInbox
