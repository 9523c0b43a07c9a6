import UploadInbox.Error
import UploadInbox.Percent
import UploadInbox.Text.Blank
import UploadInbox.Xml.Node

/-!
# Listings

The query that asks the store for the first objects whose keys begin with a text, and the reading of
its answer. Of an answer only the run of its `Contents` elements counts, and of each of these the
key, the size and the entity tag, in any order and each at most once.

Source: `list_objects_v2_query` (`query`), and `parse_list_objects_v2` (`ofText`) with the fields of
`ListBucketResult` and `ListedContents`.
-/
namespace UploadInbox

structure ListedObject where
  key : Text
  size : UInt64
  /-- The entity tag without the quotes around it. -/
  tag : Text
  deriving DecidableEq, Repr

namespace Listing

open Xml (Node)

/-- The query for at most so many objects whose keys begin with a text. -/
def query (start : Text) (maxKeys : Nat) : Text :=
  "list-type=2&max-keys=" ++ Decimal.ofNat maxKeys ++ "&prefix=" ++ Percent.encode start

/-- The contents of the elements of a name, prefixes of names not counted. -/
def named (name : Text) (parts : List Node.Part) : List (List Node) :=
  parts.filterMap fun
    | .element other _ content => if Node.localName other = name then some content else none
    | .text _ => none

/-- The text of the only element of a name; `some none` if there is no such element. -/
def only? (name : Text) (parts : List Node.Part) : Option (Option Text) :=
  match named name parts with
  | [] => some none
  | [content] => (Node.text? content).map some
  | _ => none

/-- The size that a text stands for; no element stands for zero. -/
def size? : Option Text → Option UInt64
  | none => some 0
  | some t => Decimal.readUInt64? (Blank.trim t)

def unquote (tag : Text) : Text := Text.trim (· = '"') tag

def object? (attributes : Text) (content : List Node) : Option ListedObject := do
  let parts ← Node.parts? content
  let key ← (← only? "Key" parts)
  let size ← size? (← only? "Size" parts)
  let tag ← only? "ETag" parts
  if Node.soundAttributes attributes then some ⟨key, size, unquote (tag.getD [])⟩ else none

def isObject : Node.Part → Bool
  | .element name _ _ => Node.localName name = "Contents"
  | .text _ => false

/-- The objects of the elements of one name at the front, and what follows them. -/
def run? (name : Text) : List Node.Part → Option (List ListedObject × List Node.Part)
  | .element other attributes content :: rest =>
    if other = name then
      match object? attributes content, run? name rest with
      | some object, some (objects, rest) => some (object :: objects, rest)
      | _, _ => none
    else some ([], .element other attributes content :: rest)
  | rest => some ([], rest)

/-- The objects of a listing, all of which stand together. -/
def objectsOf? (parts : List Node.Part) : Option (List ListedObject) :=
  let parts := parts.dropWhile (!isObject ·)
  match parts with
  | .element name _ _ :: _ =>
    (run? name parts).bind fun (objects, rest) => if rest.any isObject then none else some objects
  | _ => some []

def ofText? (t : Text) : Option (List ListedObject) :=
  match Node.root? t with
  | some (.element _ attributes content) =>
    if Node.soundAttributes attributes then (Node.parts? content).bind objectsOf? else none
  | _ => none

/-- The objects of an answer, or the error that it is no listing. -/
def ofText (t : Text) : Except Error (List ListedObject) :=
  match ofText? t with
  | some objects => .ok objects
  | none => .error (.metadataLookup "invalid listing response: not a listing")

end Listing
end UploadInbox
