import UploadInbox.Http.SortedFields
import UploadInbox.Query
import UploadInbox.Text.Blank
import UploadInbox.Text.Lowercase

/-!
# Canonical requests

The text that a request signature covers. Path segments and parameters are decoded and encoded
again, so that requests that mean the same give the same text however they were written; parameters
are sorted; runs of blanks in header values count as one space.

Source: `canonical_uri` (`canonicalPath`), `canonical_query_string`, `signed_headers_list`
(`signedNames`), `create_canonical_request` (`Subject.canonical`) and `SigningParams` (`Subject`).
-/
namespace UploadInbox.Signing

/-- Puts an item before the first that is not smaller. -/
def insertSorted {α : Type} (le : α → α → Bool) (x : α) : List α → List α
  | [] => [x]
  | y :: ys => if le x y then x :: y :: ys else y :: insertSorted le x ys

def sorted {α : Type} (le : α → α → Bool) (items : List α) : List α :=
  items.foldr (insertSorted le) []

/-- The order of pairs by their first part, then by their second. -/
def pairLe (a b : Text × Text) : Bool := if a.1 = b.1 then Text.le a.2 b.2 else Text.le a.1 b.1

/-- A path with every segment in its one written form; the empty path is the root. -/
def canonicalPath (path : Text) : Text :=
  if path.isEmpty then ['/']
  else
    Text.join ['/'] ((Text.fields '/' path).map fun segment =>
      Percent.encode (Percent.component segment))

def canonicalPair (pair : Text × Text) : Text × Text :=
  (Percent.encode (Percent.queryComponent pair.1), Percent.encode (Percent.queryComponent pair.2))

/-- The parameters of a query in their one written form and order. -/
def canonicalPairs (query : Text) : List (Text × Text) :=
  sorted pairLe ((Query.pairs query).map canonicalPair)

def canonicalQuery (query : Text) : Text :=
  Text.join ['&'] ((canonicalPairs query).map fun pair => pair.1 ++ '=' :: pair.2)

/-- What is signed of a request, apart from the instant and the key. -/
structure Subject where
  method : Text
  /-- The path as it is sent. -/
  path : Text
  /-- The query as it is sent. -/
  query : Text
  headers : SortedFields
  payloadHash : Text

def headerLine (field : Text × Text) : Text :=
  Lowercase.ofText field.1 ++ ':' :: Blank.collapse field.2

def headerBlock (fields : SortedFields) : Text := Text.join ['\n'] (fields.map headerLine)

def signedNames (fields : SortedFields) : Text :=
  Text.join [';'] (fields.map fun field => Lowercase.ofText field.1)

/-- The text that a signature covers. -/
def Subject.canonical (subject : Subject) : Text :=
  subject.method ++ '\n' :: canonicalPath subject.path ++ '\n' :: canonicalQuery subject.query
    ++ '\n' :: headerBlock subject.headers ++ '\n' :: '\n' :: signedNames subject.headers
    ++ '\n' :: subject.payloadHash

end UploadInbox.Signing
