import UploadInbox.Error
import UploadInbox.Text.Utf8

/-!
# References to the environment

A configuration may refer to variables as `${NAME}`, a name being capital letters, digits and
underscores that no digit begins. Every reference is replaced by the value of its variable, in
comments too, and what was put in is not looked at again. A variable is set to octets: one that is
not set and one whose octets are no text are the same error, and of several the first in the text is
reported.

Source: what `from_yaml_with_env` does before the text is read as a document.
-/
namespace UploadInbox

/-- The variables that are set, each to some octets. -/
structure Environment where
  octets? : Text → Option Bytes

namespace Environment

/-- The variables of a list, the first of a name. -/
def ofList (entries : List (Text × Bytes)) : Environment where
  octets? name := (entries.find? fun entry => entry.1 = name).map (·.2)

def ofTexts (entries : List (Text × Text)) : Environment :=
  .ofList (entries.map fun (name, value) => (name, Utf8.encode value))

/-- The value of a variable, if it is set to a text. -/
def value? (env : Environment) (name : Text) : Option Text :=
  (env.octets? name).bind Utf8.decode?

/-- A part of a text: one character, or a reference to a variable. -/
inductive Part where
  | char (c : Char)
  | reference (name : Text)
  deriving DecidableEq, Repr

def startsName (c : Char) : Bool := c.isUpper || c = '_'

def isNameChar (c : Char) : Bool := startsName c || c.isDigit

/-- The name between braces at the front of a text. -/
def reference? : Text → Option Text
  | b :: c :: rest =>
    if b.toNat = 0x7B && startsName c then
      let name := rest.takeWhile isNameChar
      match rest.drop name.length with
      | e :: _ => if e.toNat = 0x7D then some (c :: name) else none
      | [] => none
    else none
  | _ => none

/-- The parts of a text, some characters of which belong to the reference before them. -/
def partsAfter : Nat → Text → List Part
  | _, [] => []
  | skipped + 1, _ :: rest => partsAfter skipped rest
  | 0, c :: rest =>
    if c = '$' then
      match reference? rest with
      | some name => .reference name :: partsAfter (name.length + 2) rest
      | none => .char c :: partsAfter 0 rest
    else .char c :: partsAfter 0 rest

def parts (t : Text) : List Part := partsAfter 0 t

def names (t : Text) : List Text :=
  (parts t).filterMap fun
    | .char _ => none
    | .reference name => some name

/-- Whether a part refers to a variable that has no text for a value. -/
def Part.isUnreadable (env : Environment) : Part → Bool
  | .char _ => false
  | .reference name => (env.value? name).isNone

def Part.expand (env : Environment) : Part → Text
  | .char c => [c]
  | .reference name => (env.value? name).getD []

def substitute (env : Environment) (t : Text) : Except Error Text :=
  match (parts t).find? (·.isUnreadable env) with
  | some (.reference name) =>
    .error (.config ("Environment variable '" ++ name ++ "' is referenced but not set"))
  | _ => .ok ((parts t).flatMap (·.expand env))

end Environment
end UploadInbox
