import UploadInbox.Text.Basic

/-!
# Markup

The parts of a document: the tags of its elements, characters between them, and references to
characters. Comments, instructions and the declaration of a document type are passed over. Each
closing tag must name the element that is open; whatever is not well-formed ends the parts.
-/
namespace UploadInbox.Xml

inductive Token where
  /-- The tag that opens an element, with what follows the name in it. -/
  | opening (name attributes : Text)
  /-- The end of the element that is open. -/
  | closing
  | characters (t : Text)
  /-- A reference, by what stands between its marks. -/
  | reference (name : Text)
  /-- What is not well-formed. -/
  | malformed
  deriving DecidableEq, Repr

def isSpace (c : Char) : Bool := c = ' ' || c = '\t' || c = '\n' || c = '\r'

inductive Markup where
  | opening (name attributes : Text)
  | empty (name attributes : Text)
  | closing (name : Text)
  | characters (t : Text)
  | skipped
  deriving DecidableEq, Repr

/-- The text of a tag up to its end, which does not stand in quotes. -/
def tag? (quote : Option Char) : Text → Option (Text × Text)
  | [] => none
  | c :: rest =>
    let next : Option Char :=
      match quote with
      | some q => if c = q then none else quote
      | none => if c = '"' || c = '\'' then some c else none
    if c = '>' && quote.isNone then some ([], rest)
    else (tag? next rest).map fun (inside, rest) => (c :: inside, rest)

/-- The rest after a declaration in which others may stand. -/
def afterDeclaration? (depth : Nat) : Text → Option Text
  | [] => none
  | c :: rest =>
    if c = '<' then afterDeclaration? (depth + 1) rest
    else if c = '>' then
      match depth with
      | 0 => some rest
      | depth + 1 => afterDeclaration? depth rest
    else afterDeclaration? depth rest

def elementMarkup (inside : Text) : Markup :=
  let (empty, inside) :=
    if inside.getLast? = some '/' then (true, inside.dropLast) else (false, inside)
  let name := inside.takeWhile (!isSpace ·)
  let attributes := inside.drop name.length
  if empty then .empty name attributes else .opening name attributes

def exclamation? (t : Text) : Option (Markup × Text) :=
  match Text.dropPrefix? "--" t with
  | some rest => (Text.cutAt? "-->" rest).map fun (_, rest) => (.skipped, rest)
  | none =>
    match Text.dropPrefix? "[CDATA[" t with
    | some rest => (Text.cutAt? "]]>" rest).map fun (inside, rest) => (.characters inside, rest)
    | none =>
      if Text.startsWith "doctype" (Text.lowerAscii (t.take 7)) then
        match (t.drop 7).dropWhile isSpace with
        | '>' :: _ => none
        | rest => (afterDeclaration? 0 rest).map fun rest => (.skipped, rest)
      else none

/-- The markup at the front of a text, after its first sign. -/
def markup? : Text → Option (Markup × Text)
  | '!' :: rest => exclamation? rest
  | '/' :: rest =>
    (Text.cut? '>' rest).map fun (name, rest) => (.closing (Text.trimEnd isSpace name), rest)
  | '?' :: '>' :: _ => none
  | '?' :: rest => (Text.cutAt? "?>" rest).map fun (_, rest) => (.skipped, rest)
  | t => (tag? none t).map fun (inside, rest) => (elementMarkup inside, rest)

/-- Whether a character stands for itself between tags. -/
def isPlain (c : Char) : Bool := c ≠ '<' && c ≠ '&'

/-- The parts of a text, given the names of the elements that are open. -/
def tokensIn : Nat → List Text → Text → List Token
  | 0, _, _ => []
  | _, _, [] => []
  | fuel + 1, opened, c :: rest =>
    if c = '<' then
      match markup? rest, opened with
      | some (.opening name attributes, rest), _ =>
        .opening name attributes :: tokensIn fuel (name :: opened) rest
      | some (.empty name attributes, rest), _ =>
        .opening name attributes :: .closing :: tokensIn fuel opened rest
      | some (.characters t, rest), _ => .characters t :: tokensIn fuel opened rest
      | some (.skipped, rest), _ => tokensIn fuel opened rest
      | some (.closing name, rest), current :: others =>
        if name = current then .closing :: tokensIn fuel others rest else [.malformed]
      | some (.closing _, _), [] => [.malformed]
      | none, _ => [.malformed]
    else if c = '&' then
      let name := rest.takeWhile fun d => d ≠ ';' && d ≠ '&' && d ≠ '<'
      match rest.drop name.length with
      | ';' :: rest => .reference name :: tokensIn fuel opened rest
      | _ => [.malformed]
    else
      let more := rest.takeWhile isPlain
      .characters (c :: more) :: tokensIn fuel opened (rest.drop more.length)

/-- The parts of a document, without the mark of its encoding. -/
def tokens (t : Text) : List Token :=
  let t := if t.head? = some '\uFEFF' then t.drop 1 else t
  tokensIn t.length [] t

end UploadInbox.Xml
