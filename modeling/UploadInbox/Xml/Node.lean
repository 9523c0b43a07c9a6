import UploadInbox.Text.Decimal
import UploadInbox.Text.Hex
import UploadInbox.Xml.Token

/-!
# Elements

A document as the tree of its first element. Between elements, blank text does not count; where a
text is expected, characters and references are put together and no element may stand.
-/
namespace UploadInbox.Xml

inductive Node where
  | characters (t : Text)
  | reference (name : Text)
  | element (name attributes : Text) (content : List Node)
  deriving Repr

namespace Node

/-- What the open element holds up to its end, and what follows it. -/
def content? : Nat → List Token → Option (List Node × List Token)
  | 0, _ => none
  | fuel + 1, tokens =>
    match tokens with
    | .closing :: rest => some ([], rest)
    | .characters t :: rest =>
      (content? fuel rest).map fun (nodes, rest) => (.characters t :: nodes, rest)
    | .reference name :: rest =>
      (content? fuel rest).map fun (nodes, rest) => (.reference name :: nodes, rest)
    | .opening name attributes :: rest =>
      match content? fuel rest with
      | none => none
      | some (inner, rest) =>
        (content? fuel rest).map fun (nodes, rest) =>
          (.element name attributes inner :: nodes, rest)
    | .malformed :: _ | [] => none

def hexadecimalFrom (value : Nat) : Text → Option Nat
  | [] => some value
  | c :: rest => (Hex.value? c).bind fun d => hexadecimalFrom (value * 16 + d) rest

def hexadecimal? : Text → Option Nat
  | [] => none
  | t => hexadecimalFrom 0 t

/-- The character of a code point, which is not zero. -/
def ofCodePoint? (n : Nat) : Option Char :=
  if n ≠ 0 ∧ n.isValidChar then some (Char.ofNat n) else none

def resolve? (name : Text) : Option Char :=
  if name = "lt" then some '<'
  else if name = "gt" then some '>'
  else if name = "amp" then some '&'
  else if name = "apos" then some '\''
  else if name = "quot" then some '"'
  else
    match name with
    | '#' :: 'x' :: digits => (hexadecimal? digits).bind ofCodePoint?
    | '#' :: digits => (Decimal.read? digits).bind ofCodePoint?
    | _ => none

/-- Characters with every end of a line written in the one way. -/
def unifyLineEnds : Text → Text
  | '\r' :: '\n' :: rest => '\n' :: unifyLineEnds rest
  | '\r' :: rest => '\n' :: unifyLineEnds rest
  | c :: rest => c :: unifyLineEnds rest
  | [] => []

def text? : List Node → Option Text
  | [] => some []
  | characters t :: rest => (text? rest).map (unifyLineEnds t ++ ·)
  | reference name :: rest =>
    match resolve? name, text? rest with
    | some c, some t => some (c :: t)
    | _, _ => none
  | element .. :: _ => none

/-- Text and elements of a content by turns: what stands between two elements counts as one text. -/
inductive Part where
  | text (t : Text)
  | element (name attributes : Text) (content : List Node)
  deriving Repr

/-- The parts of a content, given the text before it; blank text is left out. -/
def partsAfter (before : Text) : List Node → Option (List Part)
  | [] => some (if before.all isSpace then [] else [.text before])
  | characters t :: rest => partsAfter (before ++ unifyLineEnds t) rest
  | reference name :: rest => (resolve? name).bind fun c => partsAfter (before ++ [c]) rest
  | element name attributes content :: rest =>
    (partsAfter [] rest).map fun parts =>
      (if before.all isSpace then [] else [.text before])
        ++ .element name attributes content :: parts

/-- The parts of a content, if its references can be resolved. -/
def parts? (content : List Node) : Option (List Part) := partsAfter [] content

/-- A name without what stands before its first colon. -/
def localName (name : Text) : Text := ((Text.cut? ':' name).map (·.2)).getD name

/-- The names of the attributes in a tag, if they are well-formed: each has a value in quotes. -/
def attributeNames? : Nat → Text → Option (List Text)
  | 0, _ => none
  | fuel + 1, t =>
    match t.dropWhile isSpace with
    | [] => some []
    | c :: rest =>
      let name := c :: rest.takeWhile fun d => d ≠ '=' && !isSpace d
      match (rest.drop (name.length - 1)).dropWhile isSpace with
      | '=' :: rest =>
        match rest.dropWhile isSpace with
        | q :: rest =>
          if q = '"' || q = '\'' then
            (Text.cut? q rest).bind fun (_, rest) =>
              (attributeNames? fuel rest).map (name :: ·)
          else none
        | [] => none
      | _ => none

/-- Whether the attributes in a tag are well-formed and no two have one name. -/
def soundAttributes (t : Text) : Bool :=
  match attributeNames? (t.length + 1) t with
  | some names => decide names.Nodup
  | none => false

/-- The first element after nodes that stand before it, which may be blank text only. -/
def rootAfter? (before : List Node) : List Token → Option Part
  | .characters t :: rest => rootAfter? (before ++ [.characters t]) rest
  | .reference name :: rest => rootAfter? (before ++ [.reference name]) rest
  | .opening name attributes :: rest =>
    match text? before, content? (rest.length + 1) rest with
    | some blank, some (content, _) =>
      if blank.all isSpace then some (.element name attributes content) else none
    | _, _ => none
  | .closing :: _ | .malformed :: _ | [] => none

/-- The first element of a document, whatever characters are in it and whatever follows it. -/
def root? (t : Text) : Option Part := rootAfter? [] (tokens t)

end Node
end UploadInbox.Xml
