import UploadInbox.Context
import UploadInbox.Forwarding
import UploadInbox.Inbox.Basic

/-!
# Admission

Whether a request reaches the store. The checks follow one another and the first that fails
decides: the operation must be allowed, nothing may be copied inside the store, the path must name
a user, the caller must be that user, the length of the body must be known, and there must be a
place for the request in the shared bucket. A request that fails has no target, so it is never sent
anywhere.

Source: `admit` (`check` and `examine`) and `prepare_upstream` (`prepare`).
-/
namespace UploadInbox

/-- What has been found out and done about a request. -/
structure Examination where
  context : Context
  /-- The requests on which the authenticator was asked, in order. -/
  asked : List Request
  records : List LogRecord

structure Admission extends Examination where
  result : Except Error Unit

namespace Examination

def learn (f : Context → Context) : Attempt Examination Unit :=
  modify fun examination => { examination with context := f examination.context }

def ask (authenticate : Authenticator) (request : Request) : Attempt Examination Unit := do
  modify fun examination => { examination with asked := examination.asked ++ [request] }
  authenticate request

def report (record : LogRecord) : Attempt Examination Unit :=
  modify fun examination => { examination with records := examination.records ++ [record] }

end Examination

namespace Inbox

open Examination

/-- The header that makes a put copy an object of the store. -/
def copySourceHeader : Text := "x-amz-copy-source"

def admittedRecord (user : Text) (operation : Operation) (target : Target) : LogRecord :=
  ⟨.debug, logTarget, "Request admitted",
    [("user", .text user), ("operation", .text operation.name),
      ("upstream", .text target.pathAndQuery)]⟩

/-- The checks on a request, one after the other. -/
def check (inbox : Inbox) (request : Request) : Attempt Examination Unit := do
  learn (·.withLine request.method.name request.path request.query)
  let context := (← get).context
  let operation := Operation.classify request.method context.path context.query
  learn fun context => { context with operation := some operation }
  if !operation.isAllowed then
    throw (.policyDenied operation.name)
  if request.headers.has copySourceHeader then
    throw (.policyDenied "server-side copy")
  let user ← Namespace.user context.path
  learn fun context => { context with user := some user }
  ask inbox.authenticate request
  -- Only whether there is one: the number is read again when the request is made over.
  let _ ← Forwarding.contentLength request
  let target ← Route.target request.method context.path context.query inbox.bucket user
  report (admittedRecord user operation target)
  learn fun context => { context with target := some target }

/-- The checks on a request of which the given is known. -/
def examine (inbox : Inbox) (request : Request) (context : Context) : Admission :=
  let (result, examination) := (inbox.check request).outcome ⟨context, [], []⟩
  { examination with result }

/-- Makes an admitted request over for the store and signs it. -/
def prepare (inbox : Inbox) (context : Context) (now : Civil) : Attempt Request Unit :=
  match context.target with
  | none => throw (.backendForward "request reached upstream without a target")
  | some target => Forwarding.resign target inbox.endpoint inbox.credentials now

end Inbox
end UploadInbox
