import UploadInbox.Completion
import UploadInbox.Config.Backend
import UploadInbox.Crypto.Certificate
import UploadInbox.Forwarding
import UploadInbox.Http.MediaType
import UploadInbox.Http.Status
import UploadInbox.Http.Url
import UploadInbox.Listing

/-!
# Looking up objects

Size and tag of an object are found out by a listing of the shared bucket that is asked for one
object only: the first whose key begins with the key in question. Keys are listed in order, so an
object of that very key comes first; any other answer is an error.

Source: `S3MetadataClient` with `new` (`ofConfig`), `signed_list_request` (`request`) and
`object_metadata` (`ofReply` and `ofListing`).
-/
namespace UploadInbox

structure Lookup where
  endpoint : Endpoint
  bucket : Text
  credentials : Credentials
  deriving DecidableEq

structure ListingRequest where
  url : Text
  headers : SortedFields
  deriving DecidableEq

inductive StoreReply where
  /-- Nothing: the request could not be made. -/
  | unreachable (reason : Text)
  /-- An answer whose body is shorter than announced. -/
  | shortened (status : Nat) (reason : Text)
  | answered (status : Nat) (contentType : Option Bytes) (body : Bytes)

namespace Lookup

/-- The lookups that the settings ask for. Of the certificates only the first one counts. -/
def ofConfig (files : Files) (config : BackendConfig) : Except Error Lookup :=
  match Endpoint.ofUrl config.url with
  | .error e => .error e
  | .ok endpoint =>
    let lookup : Lookup := ⟨endpoint, config.bucket, config.credentials⟩
    match config.caCert with
    | none => .ok lookup
    | some path =>
      match Certificate.firstOfBundle files path with
      | .error e => .error e
      | .ok _ => .ok lookup

def path (lookup : Lookup) : Text := '/' :: lookup.bucket

/-- The fields of a request that are signed. -/
def fields (lookup : Lookup) (timestamp : Text) : SortedFields := [
  ("host", lookup.endpoint.authority),
  ("x-amz-content-sha256", Forwarding.unsignedPayload),
  ("x-amz-date", timestamp)]

def subject (lookup : Lookup) (key timestamp : Text) : Signing.Subject where
  method := "GET"
  path := lookup.path
  query := Listing.query key 1
  headers := lookup.fields timestamp
  payloadHash := Forwarding.unsignedPayload

def request (lookup : Lookup) (key : Text) (now : Civil) : ListingRequest where
  url := lookup.endpoint.baseUrl ++ lookup.path ++ '?' :: Listing.query key 1
  headers :=
    ("authorization", Signing.storeAuthorization lookup.credentials
      (lookup.subject key now.timestamp) now.date now.timestamp) :: lookup.fields now.timestamp

def requestLine (lookup : Lookup) (key : Text) : Text :=
  "GET " ++ Url.target (lookup.bucket ++ '?' :: Listing.query key 1) ++ " HTTP/1.1"

/-- The facts about the object of a key in a listing. -/
def ofListing (key : Text) : List ListedObject → Except Error ObjectFacts
  | [] => .error (.metadataLookup ("object '" ++ key ++ "' not found"))
  | first :: _ =>
    if first.key = key then .ok ⟨first.size, first.tag⟩
    else
      .error (.metadataLookup
        ("listing returned '" ++ first.key ++ "' instead of '" ++ key ++ "'"))

def unreachable (reason : Text) : Error := .metadataLookup ("listing request failed: " ++ reason)

def ofReply (key : Text) : StoreReply → Except Error ObjectFacts
  | .unreachable reason => .error (unreachable reason)
  | .shortened status reason =>
    if !Status.isCode status || Status.isInterim status then .error (unreachable reason)
    else .error (.metadataLookup ("reading listing failed: " ++ reason))
  | .answered status contentType body =>
    if !Status.isCode status || Status.isInterim status then
      .error (unreachable "no answer")
    else if !Status.isSuccess status then
      .error (.metadataLookup ("backend answered listing with " ++ Status.shown status))
    else
      let charset := ((contentType.bind Headers.visible?).map MediaType.charset).getD .utf8
      match Listing.ofText (charset.text (if Status.isBodiless status then [] else body)) with
      | .error e => .error e
      | .ok objects => ofListing key objects

end Lookup
end UploadInbox
