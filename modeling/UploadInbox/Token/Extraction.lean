import UploadInbox.Http.SortedFields
import UploadInbox.Text.Blank

/-!
# Tokens in requests

A caller presents a token as the token of a session or as a bearer. The token of the session comes
first; blanks around either do not count, and an empty one is none.

Source: `get_header_case_insensitive` (`value?`), `extract_header_token`, `extract_bearer_token` and
`extract_token`.
-/
namespace UploadInbox.Token

def sessionHeader : Text := "x-amz-security-token"

/-- A text without blanks around it, if anything is left. -/
def trimmed? (t : Text) : Option Text :=
  let t := Blank.trim t
  if t.isEmpty then none else some t

/-- The value of a header, the case of its name not counted. -/
def value? (name : Text) (fields : SortedFields) : Option Text :=
  fields.find? fun other => Text.lowerAscii other = Text.lowerAscii name

def fromHeader? (name : Text) (fields : SortedFields) : Option Text :=
  (value? name fields).bind trimmed?

def fromBearer? (fields : SortedFields) : Option Text :=
  ((value? "authorization" fields).bind (Text.dropPrefix? "Bearer ")).bind trimmed?

def extract? (fields : SortedFields) : Option Text :=
  (fromHeader? sessionHeader fields).or (fromBearer? fields)

end UploadInbox.Token
