import UploadInbox.Http.Headers
import UploadInbox.Http.Uri

/-!
# Requests

A request as its header section gives it. A request target whose octets are no text is read with
replacement characters, and its octets are kept beside the reading.
-/
namespace UploadInbox

structure Request where
  method : Method
  uri : Uri
  /-- The request target octet by octet. -/
  wire : Bytes
  headers : Headers
  deriving DecidableEq, Repr

namespace Request

def path (request : Request) : Text := request.uri.path

def query (request : Request) : Option Text := request.uri.query

/-- A request without header fields. -/
def ofTarget (method : Method) (target : Bytes) : Except Uri.Fault Request :=
  match Utf8.decode? target with
  | some t =>
    (Uri.readTarget t).map fun uri => ⟨method, uri, Utf8.encode uri.wire, .empty⟩
  | none =>
    (Uri.readTarget (Utf8.decodeLossy target)).map fun uri => ⟨method, uri, target, .empty⟩

def withUri (uri : Uri) (request : Request) : Request :=
  { request with uri, wire := Utf8.encode uri.wire }

/-- The same request with one value of a header name. -/
def withHeader (name : Text) (value : Bytes) (request : Request)
    (valid : Headers.isName name = true) : Request :=
  { request with headers := request.headers.set name value valid }

end Request
end UploadInbox
