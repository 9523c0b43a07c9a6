import UploadInbox.Http.Method
import UploadInbox.Text.Utf8

/-!
# Header fields

The fields of a request in order, each with a lowercase name. A name may occur more than once. A
value is a sequence of octets; it is a text only when all of its octets are visible.
-/
namespace UploadInbox

/-- Whether a text is the name of a field: a token in lowercase. -/
def Headers.isName (name : Text) : Bool := isToken name && Text.lowerAscii name = name

structure Headers where
  fields : List (Text × Bytes)
  /-- However a name was sent, it is kept in lowercase. -/
  named : ∀ field ∈ fields, Headers.isName field.1 = true
  deriving DecidableEq, Repr

namespace Headers

def empty : Headers := ⟨[], by simp⟩

theorem isName_lowerAscii {name : Text} (token : isToken name = true) :
    isName (Text.lowerAscii name) = true := by
  simp [isName, isToken_lowerAscii token]

theorem lowerAscii_of_mem {headers : Headers} {field : Text × Bytes}
    (member : field ∈ headers.fields) : Text.lowerAscii field.1 = field.1 := by
  have named := headers.named field member
  simp only [isName, Bool.and_eq_true, decide_eq_true_eq] at named
  exact named.2

/-- Whether octets may be the value of a field. -/
def isValue (value : Bytes) : Bool := value.all fun b => (0x20 ≤ b && b != 0x7F) || b == 9

/-- The text of a value whose octets are all visible, spaces or tabs. -/
def visible? (value : Bytes) : Option Text :=
  if value.all fun b => (0x20 ≤ b && b < 0x7F) || b == 9 then
    some (value.map fun b => Char.ofNat b.toNat)
  else none

def values (name : Text) (headers : Headers) : List Bytes :=
  (headers.fields.filter fun field => field.1 = name).map (·.2)

def first? (name : Text) (headers : Headers) : Option Bytes := (headers.values name).head?

def has (name : Text) (headers : Headers) : Bool := headers.fields.any fun field => field.1 = name

def remove (name : Text) (headers : Headers) : Headers where
  fields := headers.fields.filter fun field => field.1 ≠ name
  named := fun field member => headers.named field (List.mem_filter.mp member).1

def append (name : Text) (value : Bytes) (headers : Headers) (valid : isName name = true) :
    Headers where
  fields := headers.fields ++ [(name, value)]
  named := by
    intro field member
    rcases List.mem_append.mp member with present | added
    · exact headers.named field present
    · rw [List.mem_singleton.mp added]
      exact valid

/-- The fields with one value of a name in the place of all others. -/
def set (name : Text) (value : Bytes) (headers : Headers) (valid : isName name = true) : Headers :=
  (headers.remove name).append name value valid

/-- The fields with one more, its name in lowercase, if name and value are such as may be sent. -/
def add? (name : Text) (value : Bytes) (headers : Headers) : Option Headers :=
  if token : isToken name then
    if isValue value then
      some (headers.append (Text.lowerAscii name) value (isName_lowerAscii token))
    else none
  else none

/-- The names that occur, each at the place of its first field. -/
def names (headers : Headers) : List Text := (headers.fields.map (·.1)).reverse.eraseDups.reverse

/-- The fields whose values are texts, in order. -/
def visible (headers : Headers) : List (Text × Text) :=
  headers.fields.filterMap fun (name, value) => (visible? value).map (name, ·)

end Headers
end UploadInbox
