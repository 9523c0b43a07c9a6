import UploadInbox.Text.Hex
import UploadInbox.Text.Decimal

/-!
# JSON values

Whole numbers of the range −2⁶³ to 2⁶⁴ − 1 are exact; every other number keeps its decimal digits
and exponent, so nothing is rounded. An object keeps its members in order, repeated names
included: what a repetition means is for the reader of the object to say.
-/
namespace UploadInbox

inductive Json where
  | null
  | bool (value : Bool)
  /-- A whole number that is not negative. -/
  | natural (value : UInt64)
  /-- A whole number below zero, given by its distance from zero. -/
  | negative (distance : Nat)
  /-- Any other number: `digits` times ten to the power `exponent`. -/
  | decimal (below : Bool) (digits : Nat) (exponent : Int)
  | string (value : Text)
  /-- A string with an escape for one half of a character. -/
  | unpaired
  | array (items : List Json)
  | object (members : List (Text × Json))
  deriving Repr

namespace Json

/-- The value of the last member of a name. -/
def member? (name : Text) : Json → Option Json
  | object members => (members.reverse.find? fun (key, _) => key = name).map (·.2)
  | _ => none

/-- The values of all members of a name, in order. -/
def members (name : Text) : Json → List Json
  | object members => (members.filter fun (key, _) => key = name).map (·.2)
  | _ => []

/-- An object of members in their order, and of others after them. -/
def ofMembers (members : List (String × Json)) (others : List (Text × Json) := []) : Json :=
  .object (members.map (fun (name, value) => ((name : Text), value)) ++ others)

/-- An object of those members that have a value. -/
def ofPresent (members : List (String × Option Json)) : Json :=
  ofMembers (members.filterMap fun (name, value) => value.map (name, ·))

def text? : Json → Option Text
  | string t => some t
  | _ => none

def uint64? : Json → Option UInt64
  | natural n => some n
  | _ => none

def quotedChar (c : Char) : Text :=
  if c = '"' then ['\\', '"']
  else if c = '\\' then ['\\', '\\']
  else if c = '\n' then ['\\', 'n']
  else if c = '\r' then ['\\', 'r']
  else if c = '\t' then ['\\', 't']
  else if c.toNat = 8 then ['\\', 'b']
  else if c.toNat = 12 then ['\\', 'f']
  else if c.toNat < 32 then
    ['\\', 'u', '0', '0', Hex.digit (c.toNat / 16), Hex.digit (c.toNat % 16)]
  else [c]

def quoted (t : Text) : Text := '"' :: t.flatMap quotedChar ++ ['"']

mutual

/-- The written form of a value, without blanks. -/
def render : Json → Text
  | null => "null"
  | bool true => "true"
  | bool false => "false"
  | natural n => Decimal.ofNat n.toNat
  | negative n => '-' :: Decimal.ofNat n
  | decimal below digits exponent =>
    (if below then ['-'] else []) ++ Decimal.ofNat digits ++ ['e'] ++ Decimal.ofInt exponent
  | string t => quoted t
  | unpaired => quoted ['\uFFFD']
  | array items => '[' :: renderItems items ++ [']']
  | object members => Char.ofNat 0x7B :: renderMembers members ++ [Char.ofNat 0x7D]

def renderItems : List Json → Text
  | [] => []
  | [item] => render item
  | item :: items => render item ++ ',' :: renderItems items

def renderMembers : List (Text × Json) → Text
  | [] => []
  | [(name, value)] => quoted name ++ ':' :: render value
  | (name, value) :: members => quoted name ++ ':' :: render value ++ ',' :: renderMembers members

end

/-- Whether `digits` times ten to the power `exponent` is within the range of a number of double
precision. -/
def finiteDecimal (digits : Nat) (exponent : Int) : Bool :=
  digits == 0 || exponent ≤ 0 ||
    (exponent ≤ 400 && digits * Nat.pow 10 exponent.toNat < Nat.pow 2 1024)

mutual

/-- Whether a value can be held in memory: strings are whole, numbers finite, and arrays and
objects nested no deeper than the given bound. -/
def isSound (depth : Nat) : Json → Bool
  | decimal _ digits exponent => finiteDecimal digits exponent
  | unpaired => false
  | array items => 0 < depth && soundItems (depth - 1) items
  | object members => 0 < depth && soundMembers (depth - 1) members
  | _ => true

def soundItems (depth : Nat) : List Json → Bool
  | [] => true
  | item :: items => isSound depth item && soundItems depth items

def soundMembers (depth : Nat) : List (Text × Json) → Bool
  | [] => true
  | (_, value) :: members => isSound depth value && soundMembers depth members

end

end Json
end UploadInbox
