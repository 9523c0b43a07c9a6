import UploadInbox.Crypto.Base64
import UploadInbox.Text.Blank
import UploadInbox.Text.Utf8

/-!
# Armoured files

Octets in base 64 between two marked lines that carry the same label.
-/
namespace UploadInbox

structure Pem where
  label : Text
  content : Bytes
  deriving DecidableEq

namespace Pem

/-- What may stand between the marks and the data. -/
def isGap (c : Char) : Bool := c = ' ' || c = '\t' || c = '\n' || c = '\r'

/-- A block between its marks: its two labels, what stands between, and what follows. -/
structure Block where
  opening : Text
  body : Text
  closing : Text
  rest : Text

def firstBlock? (t : Text) : Option Block := do
  let (_, t) ← Text.cutAt? "-----BEGIN " t
  let (opening, t) ← Text.cutAt? "-----" t
  let (body, t) ← Text.cutAt? "-----END " (t.dropWhile isGap)
  let (closing, rest) ← Text.cutAt? "-----" t
  return ⟨opening, body, closing, rest⟩

/-- The data of a block: what follows the first empty line, if there is one. -/
def dataOf (body : Text) : Text :=
  match Text.cutAt? "\n\n" body with
  | some (_, data) => data
  | none =>
    match Text.cutAt? "\r\n\r\n" body with
    | some (_, data) => data
    | none => body

/-- The lines of a text without the blanks at their ends, one after the other. -/
def joinLines (t : Text) : Text :=
  ((Text.fields '\n' t).map (Text.trimEnd Blank.isBlank)).flatten

/-- The first block of a text, if it is a whole one. -/
def ofText? (t : Text) : Option Pem := do
  let block ← firstBlock? t
  let content ← Base64.decodePadded? (joinLines (dataOf block.body))
  if block.opening.isEmpty || block.opening ≠ block.closing then none
  else some ⟨block.opening, content⟩

def ofBytes? (bytes : Bytes) : Option Pem := (Utf8.decode? bytes).bind ofText?

end Pem
end UploadInbox
