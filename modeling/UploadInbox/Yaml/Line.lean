import UploadInbox.Text.Basic

/-!
# Lines of a document

A document is read line by line. Each line has an ending, which the last one lacks; the endings of
the different systems count as one line feed. A cursor is a place in a document: what is left of
its line, and the lines below.
-/
namespace UploadInbox.Yaml

structure Line where
  content : Text
  ending : Text
  deriving DecidableEq, Repr

/-- The text that an ending of one character stands for. -/
def ending? (c : Char) : Option Text :=
  if c = '\n' ∨ c = '\r' ∨ c.toNat = 0x85 then some ['\n']
  else if c.toNat = 0x2028 ∨ c.toNat = 0x2029 then some [c]
  else none

def lines : Text → List Line
  | [] => [⟨[], []⟩]
  | '\r' :: '\n' :: rest => ⟨[], ['\n']⟩ :: lines rest
  | c :: rest =>
    match ending? c with
    | some ending => ⟨[], ending⟩ :: lines rest
    | none =>
      match lines rest with
      | [] => [⟨[c], []⟩]
      | line :: below => { line with content := c :: line.content } :: below

/-- Whether a character may stand in a document. -/
def isAllowed (c : Char) : Bool :=
  let n := c.toNat
  n == 9 || n == 10 || n == 13 || (0x20 ≤ n && n ≤ 0x7E) || n == 0x85
    || (0xA0 ≤ n && n ≤ 0xFFFD && n != 0xFEFF) || 0x10000 ≤ n

/-- Whether a character separates words within a line. -/
def isBlank (c : Char) : Bool := c = ' ' || c = '\t'

def endsWord : Text → Bool
  | [] => true
  | c :: _ => isBlank c

/-- Whether a line marks the start or the end of a document. -/
def isMark : Text → Bool
  | '-' :: '-' :: '-' :: rest => endsWord rest
  | '.' :: '.' :: '.' :: rest => endsWord rest
  | _ => false

structure Cursor where
  /-- How many characters of the line precede the place. -/
  column : Nat
  /-- What is left of the line. -/
  rest : Text
  /-- How the line ends. -/
  ending : Text
  below : List Line

def Line.leaving (line : Line) (rest : Text) (below : List Line) : Cursor :=
  ⟨line.content.length - rest.length, rest, line.ending, below⟩

def Cursor.advance (n : Nat) (c : Cursor) : Cursor :=
  { c with column := c.column + n, rest := c.rest.drop n }

/-- The place in the same line where a given part of it is left. -/
def Cursor.leaving (rest : Text) (c : Cursor) : Cursor :=
  { c with column := c.column + (c.rest.length - rest.length), rest }

/-- What is left of a line after blanks and a comment. -/
def skipInLine (tabs : Bool) (t : Text) : Text :=
  match t.dropWhile fun c => c = ' ' || (tabs && c = '\t') with
  | '#' :: _ => []
  | rest => rest

/-- The first place below a line at which there is something; the end if there is none. -/
def skipBelow (tabs : Bool) : List Line → Cursor
  | [] => ⟨0, [], [], []⟩
  | line :: below =>
    match skipInLine tabs line.content with
    | [] => skipBelow tabs below
    | rest => line.leaving rest below

end UploadInbox.Yaml
