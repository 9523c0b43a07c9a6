import UploadInbox.Text.Hidden
import UploadInbox.Text.Hex

/-!
# Quoted text

A text between double quotes, as log records and diagnostics show it. Quotes and backslashes are
escaped, the common controls have letters of their own, and every other hidden character is
written by its code point.
-/
namespace UploadInbox.Quoted

def char (c : Char) : Text :=
  if c = '"' then ['\\', '"']
  else if c = '\\' then ['\\', '\\']
  else if c = '\n' then ['\\', 'n']
  else if c = '\r' then ['\\', 'r']
  else if c = '\t' then ['\\', 't']
  else if c.toNat = 0 then ['\\', '0']
  else if Hidden.isHidden c then
    ['\\', 'u', Char.ofNat 0x7B] ++ Hex.ofNat c.toNat ++ [Char.ofNat 0x7D]
  else [c]

def text (t : Text) : Text := '"' :: t.flatMap char ++ ['"']

/-- The written form of one octet of a header value: visible characters, space and tab stay. -/
def octet (b : UInt8) : Text :=
  if b = 0x22 then ['\\', '"']
  else if (0x20 ≤ b ∧ b < 0x7F) ∨ b = 9 then [Char.ofNat b.toNat]
  else ['\\', 'x'] ++ Hex.ofNat b.toNat

def octets (bytes : Bytes) : Text := '"' :: bytes.flatMap octet ++ ['"']

def option : Option Text → Text
  | none => "None"
  | some t => "Some(" ++ text t ++ ")"

end UploadInbox.Quoted
