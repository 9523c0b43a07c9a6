import UploadInbox.Percent
import UploadInbox.Yaml.Scalar

/-!
# Tokens

A document as a sequence of tokens. The indentation of a line opens and closes blocks, which have
tokens of their own. Whether something is the key of a member is known only when the colon after it
is found, on the same line and at most 1024 characters on; the token that announces the key is then
put in front of it.
-/
namespace UploadInbox.Yaml

inductive Style where
  | plain | quoted | literal | folded
  deriving DecidableEq, Repr

inductive Token where
  | version (major minor : Nat)
  | tagPrefix (handle uri : Text)
  | documentStart | documentEnd
  | sequenceStart | mappingStart | blockEnd
  | flowSequenceStart | flowSequenceEnd | flowMappingStart | flowMappingEnd
  | blockEntry | flowEntry | key | value
  | aliasOf (name : Text)
  | anchor (name : Text)
  | tag (handle suffix : Text)
  | scalar (style : Style) (text : Text)
  deriving DecidableEq, Repr

/-- Something that will be a key if a colon follows it. -/
structure Candidate where
  /-- The number of tokens before it. -/
  place : Nat
  column : Nat
  /-- Whether it must be a key, because its block takes nothing else at its indentation. -/
  required : Bool
  deriving DecidableEq, Repr

structure Lexer where
  /-- The indentations of the open blocks, the innermost first. -/
  indents : List Nat
  candidate : Option Candidate
  /-- The candidates outside the open brackets, the innermost first. -/
  outer : List (Option Candidate)
  /-- Whether a key may stand at the place. -/
  keyAllowed : Bool
  /-- The tokens so far, the last first. -/
  tokens : List Token
  cursor : Cursor

namespace Lexer

def flow (l : Lexer) : Bool := !l.outer.isEmpty

/-- The least indentation of what belongs to the innermost block. -/
def innerIndent (l : Lexer) : Nat :=
  match l.indents with
  | [] => 0
  | indent :: _ => indent + 1

def emit (token : Token) (l : Lexer) : Lexer := { l with tokens := token :: l.tokens }

/-- Adds a token in front of what has been read since a number of tokens. -/
def insert (place : Nat) (token : Token) (l : Lexer) : Lexer :=
  let later := l.tokens.length - place
  { l with tokens := l.tokens.take later ++ token :: l.tokens.drop later }

def close (p : Nat → Bool) (l : Lexer) : Lexer :=
  { l with
    tokens := (l.indents.takeWhile p).map (fun _ => Token.blockEnd) ++ l.tokens
    indents := l.indents.dropWhile p }

/-- Closes the blocks that a column lies outside of. -/
def unroll (l : Lexer) : Lexer :=
  if l.flow then l else l.close fun indent => l.cursor.column < indent

/-- Opens a block at a column unless one is open there; its token goes to the given place. -/
def roll (column place : Nat) (token : Token) (l : Lexer) : Lexer :=
  if !l.flow && l.indents.head?.all (· < column) then
    { l.insert place token with indents := column :: l.indents }
  else l

def rollHere (token : Token) (l : Lexer) : Lexer := l.roll l.cursor.column l.tokens.length token

/-- Gives up the candidate, if it need not be a key. -/
def dropCandidate (l : Lexer) : Option Lexer :=
  if l.candidate.any (·.required) then none else some { l with candidate := none }

/-- Gives up all candidates of a kind, if none of them need be a key. -/
def expire (p : Candidate → Bool) (l : Lexer) : Option Lexer :=
  let lost (c : Option Candidate) : Bool := c.any p
  if (l.candidate :: l.outer).any fun c => c.any fun c => p c && c.required then none
  else
    some { l with
      candidate := if lost l.candidate then none else l.candidate
      outer := l.outer.map fun c => if lost c then none else c }

/-- Makes what begins at the place a candidate, if a key may stand there. -/
def saveCandidate (l : Lexer) : Option Lexer :=
  if l.keyAllowed then do
    let required := !l.flow && l.indents.head? == some l.cursor.column
    let l ← l.dropCandidate
    return { l with candidate := some ⟨l.tokens.length, l.cursor.column, required⟩ }
  else some l

/-- Goes on at a place; candidates end with their line. -/
def moveTo (c : Cursor) (l : Lexer) : Option Lexer :=
  if c.below.length = l.cursor.below.length then some { l with cursor := c }
  else { l with cursor := c }.expire fun _ => true

def advance (n : Nat) (l : Lexer) : Lexer := { l with cursor := l.cursor.advance n }

def allowKey (allowed : Bool) (l : Lexer) : Lexer := { l with keyAllowed := allowed }

/-- Goes on to the next thing that is neither blank nor comment. -/
def skipTrivia (l : Lexer) : Option Lexer :=
  match skipInLine (l.flow || !l.keyAllowed) l.cursor.rest with
  | [] =>
    if l.cursor.ending.isEmpty then some { l with cursor := ⟨l.cursor.column, [], [], []⟩ }
    else
      let l' := if l.flow then l else l.allowKey true
      l'.moveTo (skipBelow l.flow l.cursor.below)
  | rest => some { l with cursor := l.cursor.leaving rest }

def isNameChar (c : Char) : Bool := c.isAlphanum || c = '-' || c = '_'

def anchorName? (t : Text) : Option (Text × Text) :=
  let name := t.takeWhile isNameChar
  let rest := t.dropWhile isNameChar
  let ends := match rest with
    | [] => true
    | c :: _ => isBlank c || c = '?' || c = ':' || c = ',' || c = ']' || c.toNat = 0x7D || c = '%'
        || c = '@' || c.toNat = 0x60
  if name.isEmpty || !ends then none else some (name, rest)

def isUriChar (brackets : Bool) (c : Char) : Bool :=
  isNameChar c || ";/?:@&=+$.!~*'()%".toList.contains c
    || (brackets && (c = ',' || c = '[' || c = ']'))

/-- The address at the front of a text, its escapes decoded, and what follows it. -/
def uri? (brackets : Bool) (t : Text) : Option (Text × Text) :=
  let written := t.takeWhile (isUriChar brackets)
  let rest := t.dropWhile (isUriChar brackets)
  let escapes := written.filter (· = '%')
  let bytes := Percent.decodeBytes (Utf8.encode written)
  if bytes.length + 2 * escapes.length = (Utf8.encode written).length then
    (Utf8.decode? bytes).map (·, rest)
  else none

/-- The handle at the front of a text, with its closing mark if it has one. -/
def handle (t : Text) : Text × Text :=
  match t with
  | '!' :: t =>
    let name := t.takeWhile isNameChar
    match t.dropWhile isNameChar with
    | '!' :: rest => ('!' :: name ++ ['!'], rest)
    | rest => ('!' :: name, rest)
  | t => ([], t)

/-- The handle and the suffix of the tag at the front of a text, and what follows it. -/
def tag? (flow : Bool) (t : Text) : Option (Text × Text × Text) := do
  let (handle, suffix, rest) ←
    match t with
    | '!' :: '<' :: t =>
      match uri? true t with
      | some (c :: uri, '>' :: rest) => some ([], c :: uri, rest)
      | _ => none
    | t =>
      let (name, after) := handle t
      if 1 < name.length && name.getLast? == some '!' then
        match uri? false after with
        | some (c :: uri, rest) => some (name, c :: uri, rest)
        | _ => none
      else
        match uri? false (t.drop 1) with
        | some ([], rest) => some ([], ['!'], rest)
        | some (uri, rest) => some (['!'], uri, rest)
        | none => none
  if endsWord rest || (flow && rest.head? == some ',') then some (handle, suffix, rest) else none

def number? (t : Text) : Option (Nat × Text) :=
  let digits := t.takeWhile Char.isDigit
  if digits.length ≤ 9 then
    (digits.foldl (fun n c => n * 10 + (c.toNat - 48)) 0, t.dropWhile Char.isDigit)
      |> fun result => if digits.isEmpty then none else some result
  else none

def directive? (t : Text) : Option (Token × Text) :=
  let name := t.takeWhile isNameChar
  let rest := t.dropWhile isNameChar
  let value := rest.dropWhile isBlank
  if name = "YAML" && endsWord rest then do
    let (major, rest) ← number? value
    match rest with
    | '.' :: rest => do
      let (minor, rest) ← number? rest
      return (.version major minor, rest)
    | _ => none
  else if name = "TAG" && endsWord rest then
    let (handle, rest) := handle value
    if (handle = ['!'] || (1 < handle.length && handle.getLast? == some '!'))
        && (rest.head?.map isBlank) == some true then do
      let (uri, rest) ← uri? true (rest.dropWhile isBlank)
      if uri.isEmpty || !endsWord rest then none else some (.tagPrefix handle uri, rest)
    else none
  else none

def readDirective (l : Lexer) : Option Lexer := do
  let (token, rest) ← directive? (l.cursor.rest.drop 1)
  let l ← (l.close fun _ => true).dropCandidate
  if (skipInLine true rest).isEmpty then
    some ({ l with cursor := l.cursor.leaving [] }.allowKey false |>.emit token)
  else none

def readMark (token : Token) (l : Lexer) : Option Lexer := do
  let l ← (if l.flow then l else l.close fun _ => true).dropCandidate
  return ((l.allowKey false).emit token).advance 3

def openFlow (token : Token) (l : Lexer) : Option Lexer := do
  let l ← l.saveCandidate
  return ({ l with candidate := none, outer := l.candidate :: l.outer }.allowKey true
    |>.emit token).advance 1

def closeFlow (token : Token) (l : Lexer) : Option Lexer := do
  let l ← l.dropCandidate
  let l := match l.outer with
    | [] => l
    | candidate :: outer => { l with candidate, outer }
  return ((l.allowKey false).emit token).advance 1

def readFlowEntry (l : Lexer) : Option Lexer := do
  let l ← l.dropCandidate
  return ((l.allowKey true).emit .flowEntry).advance 1

def readBlockEntry (l : Lexer) : Option Lexer := do
  if !l.flow && !l.keyAllowed then none
  let l ← (l.rollHere .sequenceStart).dropCandidate
  return ((l.allowKey true).emit .blockEntry).advance 1

/-- Reads the mark of a key that is not simple. -/
def readKey (l : Lexer) : Option Lexer := do
  if !l.flow && !l.keyAllowed then none
  let l ← (l.rollHere .mappingStart).dropCandidate
  return ((l.allowKey !l.flow).emit .key).advance 1

def readValue (l : Lexer) : Option Lexer :=
  match l.candidate with
  | some c =>
    let l := { l with candidate := none }
    let l := (l.insert c.place .key).roll c.column c.place .mappingStart
    some (((l.allowKey false).emit .value).advance 1)
  | none =>
    if !l.flow && !l.keyAllowed then none
    else some ((((l.rollHere .mappingStart).allowKey !l.flow).emit .value).advance 1)

def readAnchor (token : Text → Token) (l : Lexer) : Option Lexer := do
  let l ← l.saveCandidate
  let (name, rest) ← anchorName? (l.cursor.rest.drop 1)
  return { l with cursor := l.cursor.leaving rest }.allowKey false |>.emit (token name)

def readTag (l : Lexer) : Option Lexer := do
  let l ← l.saveCandidate
  let (handle, suffix, rest) ← tag? l.flow l.cursor.rest
  return { l with cursor := l.cursor.leaving rest }.allowKey false |>.emit (.tag handle suffix)

def readBlock (style : Style) (l : Lexer) : Option Lexer := do
  let l ← l.dropCandidate
  let (text, c) ← block? (style = .folded) l.indents.head? (l.cursor.advance 1)
  ((l.allowKey true).emit (.scalar style text)).moveTo c

def readQuoted (segment : Text → Option Segment) (l : Lexer) : Option Lexer := do
  let l ← l.saveCandidate
  let (text, c) ← quoted? segment (l.cursor.advance 1)
  ((l.allowKey false).emit (.scalar .quoted text)).moveTo c

def readPlain (l : Lexer) : Option Lexer := do
  let l ← l.saveCandidate
  let plain ← plain? l.flow l.innerIndent l.cursor
  ((l.allowKey plain.ended).emit (.scalar .plain plain.text)).moveTo plain.cursor

/-- Whether a plain scalar may begin with a character that another follows. -/
def startsPlain (flow : Bool) (c : Char) (rest : Text) : Bool :=
  if c = '-' then !endsWord rest
  else if c = '?' || c = ':' then !flow && !endsWord rest
  else !(isBlank c || isFlowIndicator c || "#&*!|>'\"%@".toList.contains c || c.toNat = 0x60)

def dispatch (c : Char) (rest : Text) (l : Lexer) : Option Lexer :=
  if l.cursor.column = 0 && c = '%' then l.readDirective
  else if l.cursor.column = 0 && c = '-' && isMark (c :: rest) then l.readMark .documentStart
  else if l.cursor.column = 0 && c = '.' && isMark (c :: rest) then l.readMark .documentEnd
  else if c = '[' then l.openFlow .flowSequenceStart
  else if c.toNat = 0x7B then l.openFlow .flowMappingStart
  else if c = ']' then l.closeFlow .flowSequenceEnd
  else if c.toNat = 0x7D then l.closeFlow .flowMappingEnd
  else if c = ',' then l.readFlowEntry
  else if c = '-' && endsWord rest then l.readBlockEntry
  else if c = '?' && (l.flow || endsWord rest) then l.readKey
  else if c = ':' && (l.flow || endsWord rest) then l.readValue
  else if c = '*' then l.readAnchor .aliasOf
  else if c = '&' then l.readAnchor .anchor
  else if c = '!' then l.readTag
  else if c = '|' && !l.flow then l.readBlock .literal
  else if c = '>' && !l.flow then l.readBlock .folded
  else if c = '\'' then l.readQuoted fun t => some (singleSegment [] t)
  else if c = '"' then l.readQuoted (doubleSegment [])
  else if startsPlain l.flow c rest then l.readPlain
  else none

/-- Reads the next token. At the end of the document nothing is left to be read. -/
def step (l : Lexer) : Option Lexer := do
  let l ← l.skipTrivia
  match l.cursor.rest with
  | [] => (l.close fun _ => true).dropCandidate
  | c :: rest =>
    let column := l.cursor.column
    let l ← l.expire fun candidate => candidate.column + 1024 < column
    l.unroll.dispatch c rest

def atEnd (l : Lexer) : Bool :=
  l.cursor.rest.isEmpty && l.cursor.ending.isEmpty && l.indents.isEmpty

/-- Reads tokens to the end of the document, no more of them than given. -/
def run : Nat → Lexer → Option (List Token)
  | 0, _ => none
  | fuel + 1, l =>
    match l.step with
    | none => none
    | some l => if l.atEnd then some l.tokens.reverse else run fuel l

def start (lines : List Line) : Lexer :=
  ⟨[], none, [], true, [], match lines with
    | [] => ⟨0, [], [], []⟩
    | line :: below => line.leaving line.content below⟩

end Lexer

def tokens? (t : Text) : Option (List Token) :=
  let t := match t with
    | '\uFEFF' :: rest => rest
    | t => t
  if t.all isAllowed then Lexer.run (2 * t.length + 2) (.start (lines t)) else none

end UploadInbox.Yaml
