import UploadInbox.Xml.Node

/-!
# Written documents

Documents as they are written: elements, characters, references, comments and instructions, with
the blanks that may stand in tags. A content cannot be put together wrongly: a name is a name, a
value does not contain its quote, no comment contains its own end, and what a tag closes is what
it opened. Every markup has the characters before it, so that no two runs of characters meet.
-/
namespace UploadInbox.Xml

/-! ## Tags -/

abbrev Blanks := { t : Text // t.all isSpace = true }

def Blanks.none : Blanks := ⟨[], rfl⟩

@[simp] theorem Blanks.val_none : Blanks.none.val = [] := rfl

theorem Blanks.isSpace_of_mem (blanks : Blanks) : ∀ c ∈ blanks.val, isSpace c = true :=
  List.all_eq_true.mp blanks.property

/-- Whether a character may stand in a name. Names as they are in use have fewer characters. -/
def isNameChar (c : Char) : Bool :=
  !isSpace c && !(['<', '>', '/', '&', '\'', '"', '=', '!', '?'].contains c)

abbrev Name := { t : Text // t ≠ [] ∧ t.all isNameChar = true }

theorem Name.isNameChar_of_mem (name : Name) : ∀ c ∈ name.val, isNameChar c = true :=
  List.all_eq_true.mp name.property.2

structure Attribute where
  /-- What separates it from what stands before it. -/
  gap : Blanks
  name : Name
  /-- The blanks before and behind the equals sign. -/
  left : Blanks
  right : Blanks
  quote : Char
  value : Text
  separate : gap.val ≠ []
  quoted : quote = '"' ∨ quote = '\''
  clear : quote ∉ value

def Attribute.text (a : Attribute) : Text :=
  a.gap.val ++ (a.name.val ++ (a.left.val ++ '=' ::
    (a.right.val ++ a.quote :: (a.value ++ [a.quote]))))

/-- The tags of an element, of whose attributes no two have one name. -/
structure Tag where
  name : Name
  attributes : List Attribute
  /-- The blanks at the end of the opening tag. -/
  gap : Blanks
  /-- The blanks at the end of the closing tag. -/
  closingGap : Blanks
  distinct : (attributes.map fun a => a.name.val).Nodup

namespace Tag

/-- What stands behind the name in the opening tag. -/
def attributesText (tag : Tag) : Text := tag.attributes.flatMap Attribute.text ++ tag.gap.val

def named (name : Name) : Tag where
  name := name
  attributes := []
  gap := .none
  closingGap := .none
  distinct := List.nodup_nil

def opening (tag : Tag) : Text := '<' :: (tag.name.val ++ tag.attributesText ++ ['>'])

def closing (tag : Tag) : Text := '<' :: '/' :: (tag.name.val ++ tag.closingGap.val ++ ['>'])

/-- The tag of an element that holds nothing. -/
def empty (tag : Tag) : Text := '<' :: (tag.name.val ++ tag.attributesText ++ ['/', '>'])

end Tag

/-! ## Contents -/

/-- Characters that stand for themselves, also none. -/
abbrev Run := { t : Text // t.all isPlain = true }

def Run.none : Run := ⟨[], rfl⟩

@[simp] theorem Run.val_none : Run.none.val = [] := rfl

def Run.lineEnd : Run := ⟨['\n'], by decide⟩

@[simp] theorem Run.val_lineEnd : Run.lineEnd.val = ['\n'] := rfl

theorem Run.isPlain_of_mem (run : Run) : ∀ c ∈ run.val, isPlain c = true :=
  List.all_eq_true.mp run.property

/-- The part of a content for these characters. -/
def Run.nodes (run : Run) : List Node := if run.val = [] then [] else [.characters run.val]

/-- Something in a content besides elements and plain characters. -/
inductive Item where
  | reference (name : Text) (clear : name.all (fun c => c ≠ ';' && c ≠ '&' && c ≠ '<') = true)
  /-- Characters among which none means anything. -/
  | verbatim (t : Text) (first : ¬ ("]]>" : Text) <:+: t)
  | comment (t : Text) (first : ¬ ("-->" : Text) <:+: t)
  | instruction (t : Text) (first : ¬ ("?>" : Text) <:+: t) (begun : t.head? ≠ some '>')

namespace Item

def text : Item → Text
  | reference name _ => '&' :: (name ++ [';'])
  | verbatim t _ => "<![CDATA[" ++ (t ++ "]]>")
  | comment t _ => "<!--" ++ (t ++ "-->")
  | instruction t _ _ => "<?" ++ (t ++ "?>")

def nodes : Item → List Node
  | reference name _ => [.reference name]
  | verbatim t _ => [.characters t]
  | comment .. | instruction .. => []

def isSilent : Item → Bool
  | comment .. | instruction .. => true
  | reference .. | verbatim .. => false

end Item

/-- What an element holds; a document is one too. -/
inductive Content where
  | done (before : Run)
  | item (before : Run) (piece : Item) (next : Content)
  | element (before : Run) (tag : Tag) (inner next : Content)
  /-- An element without a content, which the tag that opens it closes. -/
  | empty (before : Run) (tag : Tag) (next : Content)

namespace Content

def text : Content → Text
  | done before => before.val
  | item before piece next => before.val ++ (piece.text ++ next.text)
  | element before tag inner next =>
    before.val ++ (tag.opening ++ (inner.text ++ (tag.closing ++ next.text)))
  | empty before tag next => before.val ++ (tag.empty ++ next.text)

def nodes : Content → List Node
  | done before => before.nodes
  | item before piece next => before.nodes ++ (piece.nodes ++ next.nodes)
  | element before tag inner next =>
    before.nodes ++ .element tag.name.val tag.attributesText inner.nodes :: next.nodes
  | empty before tag next =>
    before.nodes ++ .element tag.name.val tag.attributesText [] :: next.nodes

def nothing : Content := .done .none

def elements : Content → List (Tag × Content)
  | done _ => []
  | item _ _ next => next.elements
  | element _ tag inner next => (tag, inner) :: next.elements
  | empty _ tag next => (tag, nothing) :: next.elements

/-- Whether nothing stands between the elements but blanks, comments and instructions. -/
def isSpaced : Content → Bool
  | done before => before.val.all isSpace
  | item before piece next => before.val.all isSpace && piece.isSilent && next.isSpaced
  | element before _ _ next | empty before _ next => before.val.all isSpace && next.isSpaced

end Content
end UploadInbox.Xml
