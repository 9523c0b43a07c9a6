import UploadInbox.Text.Hex
import UploadInbox.Yaml.Line

/-!
# Scalars

The text of a scalar in each of its styles. Within quotes and in plain scalars a line ending stands
for a space, and every empty line after it for a line feed. A block keeps its lines or folds them
in the same way, except around lines that are indented further.
-/
namespace UploadInbox.Yaml

/-- What a line ending and the empty lines after it stand for. -/
def foldBreaks (first more : Text) : Text :=
  if first = ['\n'] then if more.isEmpty then [' '] else more else first ++ more

/-- The part of a quoted scalar that one line holds. -/
inductive Segment where
  /-- The scalar ends; the rest of the line is left. -/
  | closed (text rest : Text)
  /-- The scalar goes on in the next line. -/
  | broken (text : Text)
  /-- The scalar goes on in the next line, the line ending not counted. -/
  | escaped (text : Text)

def Segment.prepend (front : Text) : Segment → Segment
  | closed text rest => closed (front ++ text) rest
  | broken text => broken (front ++ text)
  | escaped text => escaped (front ++ text)

/-- Reads a line between single quotes, after blanks that have not been counted yet. -/
def singleSegment (blanks : Text) : Text → Segment
  | [] => .broken []
  | '\'' :: '\'' :: rest => (singleSegment [] rest).prepend (blanks ++ ['\''])
  | c :: rest =>
    if c = '\'' then .closed blanks rest
    else if isBlank c then singleSegment (blanks ++ [c]) rest
    else (singleSegment [] rest).prepend (blanks ++ [c])

def escape? (c : Char) : Option Char :=
  let named : List (Char × Nat) := [
    ('0', 0), ('a', 7), ('b', 8), ('t', 9), ('\t', 9), ('n', 10), ('v', 11), ('f', 12), ('r', 13),
    ('e', 27), (' ', 32), ('"', 34), ('/', 47), ('\\', 92), ('N', 0x85), ('_', 0xA0), ('L', 0x2028),
    ('P', 0x2029)]
  (named.find? fun entry => entry.1 = c).map fun entry => Char.ofNat entry.2

def codePoint? (digits : Text) : Option Char :=
  let value := digits.foldl (fun value c => do return (← value) * 16 + (← Hex.value? c)) (some 0)
  match value with
  | some n => if n < 0xD800 ∨ (0xE000 ≤ n ∧ n ≤ 0x10FFFF) then some (Char.ofNat n) else none
  | none => none

/-- Reads a line between double quotes, after blanks that have not been counted yet. -/
def doubleSegment (blanks : Text) : Text → Option Segment
  | [] => some (.broken [])
  | ['\\'] => some (.escaped blanks)
  | '\\' :: 'x' :: a :: b :: rest => do
    let c ← codePoint? [a, b]
    return (← doubleSegment [] rest).prepend (blanks ++ [c])
  | '\\' :: 'u' :: a :: b :: c :: d :: rest => do
    let c ← codePoint? [a, b, c, d]
    return (← doubleSegment [] rest).prepend (blanks ++ [c])
  | '\\' :: 'U' :: a :: b :: c :: d :: e :: f :: g :: h :: rest => do
    let c ← codePoint? [a, b, c, d, e, f, g, h]
    return (← doubleSegment [] rest).prepend (blanks ++ [c])
  | '\\' :: c :: rest => do
    let c ← escape? c
    return (← doubleSegment [] rest).prepend (blanks ++ [c])
  | c :: rest =>
    if c = '"' then some (.closed blanks rest)
    else if isBlank c then doubleSegment (blanks ++ [c]) rest
    else (doubleSegment [] rest).map (·.prepend (blanks ++ [c]))

/-- The rest of a quoted scalar from the next line on, after a line ending and empty lines. -/
def quotedBelow (segment : Text → Option Segment) (first more : Text) :
    List Line → Option (Text × Cursor)
  | [] => none
  | line :: below =>
    let t := line.content.dropWhile isBlank
    if t.isEmpty then quotedBelow segment first (more ++ line.ending) below
    else if isMark line.content then none
    else
      let front := foldBreaks first more
      match segment t with
      | none => none
      | some (.closed text rest) => some (front ++ text, line.leaving rest below)
      | some (.broken text) =>
        (quotedBelow segment line.ending [] below).map fun (more, c) => (front ++ text ++ more, c)
      | some (.escaped text) =>
        (quotedBelow segment [] [] below).map fun (more, c) => (front ++ text ++ more, c)

def quoted? (segment : Text → Option Segment) (c : Cursor) : Option (Text × Cursor) :=
  match segment c.rest with
  | none => none
  | some (.closed text rest) => some (text, c.leaving rest)
  | some (.broken text) =>
    (quotedBelow segment c.ending [] c.below).map fun (more, c) => (text ++ more, c)
  | some (.escaped text) =>
    (quotedBelow segment [] [] c.below).map fun (more, c) => (text ++ more, c)

/-- Whether a character ends a plain scalar inside brackets. -/
def isFlowIndicator (c : Char) : Bool :=
  c = ',' || c = '[' || c = ']' || c.toNat = 0x7B || c.toNat = 0x7D

/-- The part of a plain scalar that one line holds, after blanks that have not been counted yet, and
what is left of the line. -/
def plainSegment (flow : Bool) (blanks : Text) : Text → Option (Text × Text)
  | [] => some ([], [])
  | c :: rest =>
    if isBlank c then plainSegment flow (blanks ++ [c]) rest
    else if c = '#' && !blanks.isEmpty then some ([], c :: rest)
    else if c = ':' && endsWord rest then some ([], c :: rest)
    else if flow && c = ':' && rest.head?.any (fun d => d = '?' || isFlowIndicator d) then none
    else if flow && isFlowIndicator c then some ([], c :: rest)
    else (plainSegment flow [] rest).map fun (text, rest) => (blanks ++ c :: text, rest)

/-- What has been read of a plain scalar: its text, whether a line ending follows it, and the place
after both. -/
structure Plain where
  text : Text
  ended : Bool
  cursor : Cursor

def Plain.prepend (front : Text) (p : Plain) : Plain := { p with text := front ++ p.text }

/-- The rest of a plain scalar from the next line on, after a line ending and empty lines. The lines
of a block scalar must be indented at least as given. -/
def plainBelow (flow : Bool) (indent : Nat) (first more : Text) : List Line → Option Plain
  | [] => some ⟨[], true, ⟨0, [], [], []⟩⟩
  | line :: below =>
    let blanks := line.content.takeWhile isBlank
    let t := line.content.dropWhile isBlank
    let stop : Plain := ⟨[], true, line.leaving t below⟩
    if (blanks.take indent).contains '\t' then none
    else if t.isEmpty then plainBelow flow indent first (more ++ line.ending) below
    else if (!flow && blanks.length < indent) || isMark line.content || t.head? == some '#' then
      some stop
    else
      match plainSegment flow [] t with
      | none => none
      | some ([], _) => some stop
      | some (text, []) =>
        let text := foldBreaks first more ++ text
        if line.ending.isEmpty then some ⟨text, false, line.leaving [] below⟩
        else (plainBelow flow indent line.ending [] below).map (·.prepend text)
      | some (text, rest) => some ⟨foldBreaks first more ++ text, false, line.leaving rest below⟩

def plain? (flow : Bool) (indent : Nat) (c : Cursor) : Option Plain :=
  match plainSegment flow [] c.rest with
  | none => none
  | some (text, []) =>
    if c.ending.isEmpty then some ⟨text, false, c.leaving []⟩
    else (plainBelow flow indent c.ending [] c.below).map (·.prepend text)
  | some (text, rest) => some ⟨text, false, c.leaving rest⟩

/-- What becomes of the line endings at the end of a block. -/
inductive Chomping where
  | strip | clip | keep
  deriving DecidableEq, Repr

/-- How a block is to be read: what becomes of its end, and by how much it is indented. -/
structure BlockHeader where
  chomping : Chomping
  indent : Option Nat

def chomping? (c : Char) : Option Chomping :=
  if c = '+' then some .keep else if c = '-' then some .strip else none

def indent? (c : Char) : Option Nat :=
  if '1' ≤ c ∧ c ≤ '9' then some (c.toNat - 48) else none

/-- The header of a block, in the rest of its line. -/
def BlockHeader.ofText? (t : Text) : Option BlockHeader :=
  let (marks, rest) := match t with
    | a :: b :: rest =>
      match chomping? a, indent? a, chomping? b, indent? b with
      | some chomping, _, _, some n => (BlockHeader.mk chomping (some n), rest)
      | some chomping, _, _, none => (⟨chomping, none⟩, b :: rest)
      | none, some n, some chomping, _ => (⟨chomping, some n⟩, rest)
      | none, some n, none, _ => (⟨.clip, some n⟩, b :: rest)
      | none, none, _, _ => (⟨.clip, none⟩, a :: b :: rest)
    | [a] =>
      match chomping? a, indent? a with
      | some chomping, _ => (⟨chomping, none⟩, [])
      | none, some n => (⟨.clip, some n⟩, [])
      | none, none => (⟨.clip, none⟩, [a])
    | [] => (⟨.clip, none⟩, [])
  if (skipInLine true rest).isEmpty then some marks else none

/-- How far the widest of the lines up to and with the first that is not empty is indented; none
where a tab stands in the indentation. -/
def widestIndent : List Line → Option Nat
  | [] => some 0
  | line :: below =>
    let spaces := (line.content.takeWhile (· = ' ')).length
    match line.content.drop spaces with
    | [] => (widestIndent below).map (max spaces)
    | c :: _ => if c = '\t' then none else some spaces

/-- What has been read of a block: its text, the line ending after it, the empty lines after that,
and the place after all of them. -/
structure Block where
  text : Text
  last : Text
  more : Text
  cursor : Cursor

/-- The lines of a block of a given indentation, after a line ending and empty lines. `indented`
says whether the line before them is indented further. -/
def blockBelow (folded : Bool) (indent : Nat) (first more : Text) (indented : Bool) :
    List Line → Option Block
  | [] => some ⟨[], first, more, ⟨0, [], [], []⟩⟩
  | line :: below =>
    let spaces := ((line.content.take indent).takeWhile (· = ' ')).length
    match line.content.drop spaces with
    | [] => blockBelow folded indent first (more ++ line.ending) indented below
    | c :: rest =>
      if spaces < indent then
        if c = '\t' then none else some ⟨[], first, more, line.leaving (c :: rest) below⟩
      else
        let further := isBlank c
        let front :=
          if folded && first = ['\n'] && !indented && !further then
            if more.isEmpty then [' '] else more
          else first ++ more
        (blockBelow folded indent line.ending [] further below).map fun block =>
          { block with text := front ++ c :: rest ++ block.text }

/-- The text of a block after its mark, inside a block of a given indentation, and the place after
it. -/
def block? (folded : Bool) (outer : Option Nat) (c : Cursor) : Option (Text × Cursor) := do
  let header ← BlockHeader.ofText? c.rest
  let indent ←
    match header.indent with
    | some n => some (outer.getD 0 + n)
    | none => (widestIndent c.below).map (max (max 1 ((outer.map (· + 1)).getD 0)))
  let block ← blockBelow folded indent [] [] false c.below
  let text := block.text
    ++ (if header.chomping = .strip then [] else block.last)
    ++ (if header.chomping = .keep then block.more else [])
  return (text, block.cursor)

end UploadInbox.Yaml
