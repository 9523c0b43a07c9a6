import UploadInbox.Text.Decimal
import UploadInbox.Text.Hex
import UploadInbox.Yaml.Node

/-!
# Typed values

What the nodes of a document mean where a certain type is expected. A text takes any scalar as it is
written; numbers and truth values are plain; a plain null, or nothing, is the absence of an optional
value. Each reader gives `none` for a node that is not of its type.
-/
namespace UploadInbox.Yaml.Node

/-- Whether a scalar counts as plain where a type of the given tag is expected. -/
def countsAsPlain (expected : Text) (tag : Option Text) (style : Style) : Bool :=
  style = .plain || (style = .literal && tag = some expected)

def text? : Node → Option Text
  | scalar _ _ t => some t
  | anchored _ node => text? node
  | _ => none

def inBase? (base : Nat) (t : Text) : Option Nat :=
  if t.isEmpty then none
  else t.foldl (fun value c =>
    match value, Hex.value? c with
    | some n, some d => if d < base then some (n * base + d) else none
    | _, _ => none) (some 0)

/-- Whether a text is digits after a zero, which is no number. -/
def isPaddedNumber (t : Text) : Bool :=
  match t with
  | '0' :: c :: rest => (c :: rest).all Char.isDigit
  | _ => false

/-- The value of a number in one of the bases that may be marked, or in base ten. -/
def unsigned? (t : Text) : Option Nat :=
  let marked := match t with
    | '0' :: 'x' :: digits => inBase? 16 digits
    | '0' :: 'o' :: digits => inBase? 8 digits
    | '0' :: 'b' :: digits => inBase? 2 digits
    | _ => none
  if marked.isSome then marked else if isPaddedNumber t then none else inBase? 10 t

/-- The value of a whole number that is not negative, in the text of a scalar. A sign may precede
it; a minus sign only if it is zero. -/
def natural? (t : Text) : Option Nat :=
  match t with
  | '+' :: digits => unsigned? digits
  | '-' :: digits => (unsigned? digits).filter (· = 0)
  | digits => unsigned? digits

def number? (bound : Nat) : Node → Option Nat
  | scalar tag style t =>
    if countsAsPlain "tag:yaml.org,2002:int" tag style then (natural? t).filter (· < bound)
    else none
  | anchored _ node => number? bound node
  | _ => none

def uint16? (node : Node) : Option UInt16 := (number? UInt16.size node).map UInt16.ofNat

def uint64? (node : Node) : Option UInt64 := (number? UInt64.size node).map UInt64.ofNat

def bool? : Node → Option Bool
  | scalar tag style t =>
    if !countsAsPlain "tag:yaml.org,2002:bool" tag style then none
    else if t = "true" ∨ t = "True" ∨ t = "TRUE" then some true
    else if t = "false" ∨ t = "False" ∨ t = "FALSE" then some false
    else none
  | anchored _ node => bool? node
  | _ => none

def isNull (t : Text) : Bool := t = "null" || t = "Null" || t = "NULL" || t = "~"

def option? {α : Type} (read : Node → Option α) : Node → Option (Option α)
  | anchored _ node => option? read node
  | node =>
    match node with
    | scalar (some tag) .plain t =>
      -- A tag of null on anything else is refused, whatever type is read.
      if tag = "tag:yaml.org,2002:null" then if isNull t then some none else none
      else (read node).map some
    | scalar none .plain t => if t.isEmpty || isNull t then some none else (read node).map some
    | node => (read node).map some

/-- The members of a mapping by their names; nothing written is a mapping without members. -/
def members? : Node → Option (List (Text × Node))
  | mapping members => members.mapM fun (key, value) => key.text?.map (·, value)
  | scalar _ .plain [] => some []
  | anchored _ node => members? node
  | _ => none

/-- The value of the member of a name, if it occurs at most once. -/
def field? (name : Text) (members : List (Text × Node)) : Option (Option Node) :=
  match members.filter fun member => member.1 = name with
  | [] => some none
  | [(_, node)] => some (some node)
  | _ => none

def required? {α : Type} (read : Node → Option α) (name : Text) (members : List (Text × Node)) :
    Option α :=
  (field? name members).bind fun node => node.bind read

/-- The value of a member that has a standard value. -/
def withDefault? {α : Type} (standard : α) (read : Node → Option α) (name : Text)
    (members : List (Text × Node)) : Option α :=
  (field? name members).bind fun node =>
    match node with
    | none => some standard
    | some node => read node

end UploadInbox.Yaml.Node
