import UploadInbox.Operation
import UploadInbox.Route

/-!
# Request contexts

What is known about a request as it goes from the caller to the store and back. Each fact is added
when it is found out; a request has a target only once it is admitted.

Source: `RequestContext` with `new` (`ofLine`) and `set_request` (`withLine`).
-/
namespace UploadInbox

structure Context where
  /-- What tells the request from all others. -/
  requestId : Text
  /-- The method as the request line has it. -/
  method : Text
  path : Text
  /-- The query, unless it is empty. -/
  query : Option Text
  operation : Option Operation
  user : Option Text
  /-- Where the request goes in the store. -/
  target : Option Target
  /-- The status with which the store answered. -/
  storeStatus : Option Nat
  deriving DecidableEq, Repr

namespace Context

/-- What is known of a request line alone. -/
def ofLine (requestId method path : Text) : Context :=
  ⟨requestId, method, path, none, none, none, none, none⟩

/-- What is known of a request that has not come yet. -/
def initial (requestId : Text) : Context := ofLine requestId "GET" "/"

def withLine (context : Context) (method path : Text) (query : Option Text) : Context :=
  { context with method, path, query := Query.nonEmpty? query }

/-- The name of the operation, or another text where it is not known. -/
def operationOr (context : Context) (other : Text) : Text :=
  (context.operation.map Operation.name).getD other

end Context
end UploadInbox
