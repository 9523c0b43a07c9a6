import UploadInbox.Json.Basic

/-!
# Reading JSON

`Json.read?` accepts exactly the texts of one value with blanks around it. The functions below
read one thing from the front of a text and give what is left. They take a bound on the nesting of
calls, which the length of the text never exceeds.
-/
namespace UploadInbox.Json

def skipBlanks (t : Text) : Text :=
  t.dropWhile fun c => c = ' ' || c = '\n' || c = '\r' || c = '\t'

def fourDigits? (a b c d : Char) : Option Nat := do
  let a ← Hex.value? a
  let b ← Hex.value? b
  let c ← Hex.value? c
  let d ← Hex.value? d
  return ((a * 16 + b) * 16 + c) * 16 + d

def escape? (c : Char) : Option Nat :=
  if c = '"' ∨ c = '\\' ∨ c = '/' then some c.toNat
  else if c = 'b' then some 8
  else if c = 'f' then some 12
  else if c = 'n' then some 10
  else if c = 'r' then some 13
  else if c = 't' then some 9
  else none

/-- The code points up to the closing quote, halves of characters as they are escaped. -/
def codePoints : Text → Option (List Nat × Text)
  | [] => none
  | '"' :: rest => some ([], rest)
  | '\\' :: 'u' :: a :: b :: c :: d :: rest => do
    let point ← fourDigits? a b c d
    let (points, rest) ← codePoints rest
    return (point :: points, rest)
  | '\\' :: c :: rest => do
    let point ← escape? c
    let (points, rest) ← codePoints rest
    return (point :: points, rest)
  | c :: rest =>
    if c.toNat < 32 ∨ c = '\\' then none
    else do
      let (points, rest) ← codePoints rest
      return (c.toNat :: points, rest)

/-- The text of code points in which the halves of each character stand together. -/
def pairUp : List Nat → Option Text
  | [] => some []
  | [point] => if 0xD800 ≤ point ∧ point < 0xE000 then none else some [Char.ofNat point]
  | high :: low :: rest =>
    if 0xD800 ≤ high ∧ high < 0xE000 then
      if high < 0xDC00 ∧ 0xDC00 ≤ low ∧ low < 0xE000 then
        (pairUp rest).map (Char.ofNat (0x10000 + (high - 0xD800) * 1024 + (low - 0xDC00)) :: ·)
      else none
    else (pairUp (low :: rest)).map (Char.ofNat high :: ·)

/-- The rest of a string after its opening quote. -/
def string? (t : Text) : Option (Json × Text) := do
  let (points, rest) ← codePoints t
  return ((pairUp points).elim unpaired string, rest)

def digits (t : Text) : Text := t.takeWhile Char.isDigit

def fraction? : Text → Option (Text × Text)
  | '.' :: rest =>
    if (digits rest).isEmpty then none
    else some (digits rest, rest.drop (digits rest).length)
  | t => some ([], t)

/-- The value of an exponent, if there is one, and what follows it. -/
def exponent? : Text → Option (Option Int × Text)
  | c :: rest =>
    if c = 'e' ∨ c = 'E' then
      let (below, rest) := match rest with
        | '+' :: rest => (false, rest)
        | '-' :: rest => (true, rest)
        | rest => (false, rest)
      match Decimal.read? (digits rest) with
      | none => none
      | some n => some (some (if below then -(n : Int) else n), rest.drop (digits rest).length)
    else some (none, c :: rest)
  | [] => some (none, [])

/-- The number of given digits before and after its point. -/
def ofDigits (below : Bool) (whole part : Text) (exponent : Option Int) : Json :=
  let value := (Decimal.read? (whole ++ part)).getD 0
  if part.isEmpty && exponent.isNone then
    if below then
      if value = 0 then decimal true 0 0
      else if value ≤ 0x8000000000000000 then negative value
      else decimal true value 0
    else if value < UInt64.size then natural (UInt64.ofNat value)
    else decimal false value 0
  else decimal below value (exponent.getD 0 - part.length)

def number? (t : Text) : Option (Json × Text) := do
  let (below, t) := match t with
    | '-' :: rest => (true, rest)
    | t => (false, t)
  let whole := digits t
  if whole.isEmpty || (1 < whole.length && whole.head? == some '0') then none
  else
    let (part, rest) ← fraction? (t.drop whole.length)
    let (exponent, rest) ← exponent? rest
    return (ofDigits below whole part exponent, rest)

mutual

def value? : Nat → Text → Option (Json × Text)
  | 0, _ => none
  | fuel + 1, t =>
    match skipBlanks t with
    | 'n' :: 'u' :: 'l' :: 'l' :: rest => some (null, rest)
    | 't' :: 'r' :: 'u' :: 'e' :: rest => some (bool true, rest)
    | 'f' :: 'a' :: 'l' :: 's' :: 'e' :: rest => some (bool false, rest)
    | '"' :: rest => string? rest
    | '[' :: rest =>
      match skipBlanks rest with
      | ']' :: rest => some (array [], rest)
      | rest => (items? fuel rest).map fun (items, rest) => (array items, rest)
    | c :: rest =>
      if c.toNat = 0x7B then
        match skipBlanks rest with
        | d :: rest =>
          if d.toNat = 0x7D then some (object [], rest)
          else (members? fuel (d :: rest)).map fun (members, rest) => (object members, rest)
        | [] => none
      else number? (c :: rest)
    | [] => none

/-- One or more items and the end of their array. -/
def items? : Nat → Text → Option (List Json × Text)
  | 0, _ => none
  | fuel + 1, t =>
    match value? fuel t with
    | none => none
    | some (item, rest) =>
      match skipBlanks rest with
      | ',' :: rest => (items? fuel rest).map fun (items, rest) => (item :: items, rest)
      | ']' :: rest => some ([item], rest)
      | _ => none

/-- One or more members and the end of their object. -/
def members? : Nat → Text → Option (List (Text × Json) × Text)
  | 0, _ => none
  | fuel + 1, t =>
    match skipBlanks t with
    | '"' :: rest =>
      match string? rest with
      | some (string name, rest) =>
        match skipBlanks rest with
        | ':' :: rest =>
          match value? fuel rest with
          | none => none
          | some (value, rest) =>
            match skipBlanks rest with
            | ',' :: rest =>
              (members? fuel rest).map fun (members, rest) => ((name, value) :: members, rest)
            | c :: rest => if c.toNat = 0x7D then some ([(name, value)], rest) else none
            | [] => none
        | _ => none
      | _ => none
    | _ => none

end

def read? (t : Text) : Option Json :=
  match value? (2 * t.length + 2) t with
  | some (value, rest) => if (skipBlanks rest).isEmpty then some value else none
  | none => none

end UploadInbox.Json
