import UploadInbox.Text.Basic

/-!
# Errors

Every way in which a request, a lookup, a delivery or the start of the service can fail, with the
text, the status and the document that report it. The document cannot be added to from outside:
the five characters that mean something in it are written as entities.

Source: `ProxyError` with `status_code`, `s3_error_code`, `to_s3_xml` (`document`) and `xml_escape`.
-/
namespace UploadInbox

inductive Error where
  /-- The configuration is unusable. -/
  | config (detail : Text)
  /-- The operation is one that the inbox refuses. -/
  | policyDenied (what : Text)
  /-- The path names no user. -/
  | missingIdentity (detail : Text)
  /-- The path of an upload names no object. -/
  | missingObjectKey (detail : Text)
  /-- The caller is not who the path says. -/
  | authenticationFailed (reason : Text)
  /-- The request for the backend cannot be made. -/
  | backendForward (detail : Text)
  /-- The facts about a stored object cannot be found out. -/
  | metadataLookup (detail : Text)
  /-- The broker did not take an event. -/
  | publish (detail : Text)
  deriving DecidableEq, Repr

/-- A character of a document, the five that mean something in it as entities. -/
def Xml.escapeChar (c : Char) : Text :=
  if c = '&' then "&amp;"
  else if c = '<' then "&lt;"
  else if c = '>' then "&gt;"
  else if c = '"' then "&quot;"
  else if c = '\'' then "&apos;"
  else [c]

/-- A text as the content of an element. -/
def Xml.escape (t : Text) : Text := t.flatMap escapeChar

namespace Error

def kind : Error → Text
  | config _ => "Config"
  | policyDenied _ => "PolicyDenied"
  | missingIdentity _ => "MissingIdentity"
  | missingObjectKey _ => "MissingObjectKey"
  | authenticationFailed _ => "AuthenticationFailed"
  | backendForward _ => "BackendForward"
  | metadataLookup _ => "MetadataLookup"
  | publish _ => "Publish"

def message : Error → Text
  | config detail => "Configuration error: " ++ detail
  | policyDenied what => "Operation not permitted: " ++ what
  | missingIdentity detail => "Request path '" ++ detail ++ "' does not name a user namespace"
  | missingObjectKey detail => "Upload path '" ++ detail ++ "' does not name an object key"
  | authenticationFailed reason => "Authentication failed: " ++ reason
  | backendForward detail => "Backend forward error: " ++ detail
  | metadataLookup detail => "Metadata lookup failed: " ++ detail
  | publish detail => "Publish failed: " ++ detail

/-- The status of the answer to a request that ends with an error. -/
def status : Error → Nat
  | policyDenied _ | missingIdentity _ | missingObjectKey _ => 403
  | authenticationFailed _ => 401
  | config _ | backendForward _ | metadataLookup _ | publish _ => 500

def code (e : Error) : Text :=
  if e.status = 403 then "AccessDenied"
  else if e.status = 401 then "InvalidToken"
  else "InternalError"

def element (name content : Text) : Text :=
  ['<'] ++ name ++ ['>'] ++ content ++ ['<', '/'] ++ name ++ ['>']

def document (e : Error) (resource requestId : Text) : Text :=
  "<?xml version=\"1.0\" encoding=\"UTF-8\"?>\n" ++
    element "Error"
      (element "Code" e.code ++ element "Message" (Xml.escape e.message) ++
        element "Resource" (Xml.escape resource) ++ element "RequestId" (Xml.escape requestId))

end Error
end UploadInbox
