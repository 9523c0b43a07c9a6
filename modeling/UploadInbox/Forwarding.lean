import UploadInbox.Attempt
import UploadInbox.Endpoint
import UploadInbox.Http.Request
import UploadInbox.Route
import UploadInbox.Signing.Authorization

/-!
# Requests for the store

An admitted request goes on to the store under the inbox's own name: what the edge and the caller
put into it for others is taken out, the length of the body must be known, and the request is
signed for its new target. The request is changed in place.

Source: `strip_edge_headers`, `forwarded_content_length`, `set_header` and
`resign_upstream_request`, which is `address` and the signature after it.
-/
namespace UploadInbox.Forwarding

def securityTokenHeader : Text := "x-amz-security-token"

/-- Headers that the edge adds, and the one with the caller's token. -/
def edgeHeaders : List Text := [
  securityTokenHeader, "x-forwarded-port", "x-forwarded-proto", "x-forwarded-host",
  "x-forwarded-for", "x-original-uri", "x-real-ip", "x-request-id", "x-scheme"]

/-- A request without the headers of the edge and without the caller's authorization. -/
def strip (request : Request) : Request :=
  { request with
    headers := (edgeHeaders ++ [("authorization" : Text)]).foldl (fun hs name => hs.remove name)
      request.headers }

/-- The length of the body, which only requests that upload nothing may leave out. -/
def contentLength (request : Request) : Except Error (Option UInt64) :=
  match request.headers.first? "content-length" with
  | some value =>
    match (Headers.visible? value).bind fun t => Decimal.readUInt64? (Blank.trim t) with
    | some length => .ok (some length)
    | none => .error (.backendForward ("unparseable Content-Length " ++ Quoted.octets value))
  | none =>
    if request.method.isUpload then
      .error (.backendForward (request.method.name ++ " without Content-Length"))
    else .ok none

/-- The digest of the body where the caller does not declare one. -/
def unsignedPayload : Text := "UNSIGNED-PAYLOAD"

/-- Gives a header one value, which must be such as may be sent. -/
def setHeader (name value : Text) (valid : Headers.isName name = true) : Attempt Request Unit :=
  let octets := Utf8.encode value
  if Headers.isValue octets then modify fun request => request.withHeader name octets valid
  else
    throw (.backendForward ("Failed to set " ++ name ++ " header: forbidden control character"))

/-- The digest of the body as the caller declares it. -/
def payloadHash (request : Request) : Text :=
  ((request.headers.first? "x-amz-content-sha256").bind Headers.visible?).getD unsignedPayload

/-- Makes a request one for the target at the endpoint, with everything but the signature. -/
def address (target : Target) (endpoint : Endpoint) (timestamp : Text) :
    Attempt Request Unit := do
  -- A request that fails here is still as the caller sent it.
  let length ← contentLength (← get)
  modify strip
  match Uri.read target.pathAndQuery with
  | .ok uri => modify (Request.withUri uri)
  | .error fault => throw (.backendForward ("Invalid upstream URI: " ++ fault.message))
  setHeader "host" endpoint.authority (by decide)
  if let some length := length then
    setHeader "content-length" (Decimal.ofNat length.toNat) (by decide)
  setHeader "x-amz-content-sha256" (payloadHash (← get)) (by decide)
  setHeader "x-amz-date" timestamp (by decide)

def subject (target : Target) (request : Request) : Signing.Subject where
  method := request.method.name
  path := target.path
  query := target.query.getD []
  headers := SortedFields.joining request.headers.visible
  payloadHash := payloadHash request

/-- Makes a request over for a target at the endpoint and signs it. -/
def resign (target : Target) (endpoint : Endpoint) (credentials : Credentials) (now : Civil) :
    Attempt Request Unit := do
  address target endpoint now.timestamp
  let authorization :=
    Signing.storeAuthorization credentials (subject target (← get)) now.date now.timestamp
  setHeader "authorization" authorization (by decide)

end UploadInbox.Forwarding
