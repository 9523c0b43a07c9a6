import UploadInbox.Text.Utf8
import UploadInbox.Text.Hex

/-!
# Percent coding

Encoding keeps letters, digits and `-`, `_`, `.`, `~`, and writes every other octet as a percent
sign and two uppercase digits. Decoding works on octets and refuses nothing: a percent sign that
two digits do not follow stands for itself.

Source: `decode_component` (`component`) and `decode_query_component` (`queryComponent`), with the
coding that they rely on.
-/
namespace UploadInbox.Percent

/-- Whether an octet is written as itself. -/
def isUnreserved (b : UInt8) : Bool :=
  (0x30 ≤ b && b ≤ 0x39) || (0x41 ≤ b && b ≤ 0x5A) || (0x61 ≤ b && b ≤ 0x7A)
    || b == 0x2D || b == 0x2E || b == 0x5F || b == 0x7E

def encodeOctet (b : UInt8) : Text :=
  if isUnreserved b then [Char.ofNat b.toNat] else '%' :: Hex.upperOctet b

def encodeBytes (bytes : Bytes) : Text := bytes.flatMap encodeOctet

def encode (t : Text) : Text := encodeBytes (Utf8.encode t)

def digit? (b : UInt8) : Option UInt8 :=
  if 0x30 ≤ b ∧ b ≤ 0x39 then some (b - 0x30)
  else if 0x41 ≤ b ∧ b ≤ 0x46 then some (b - 0x37)
  else if 0x61 ≤ b ∧ b ≤ 0x66 then some (b - 0x57)
  else none

/-- Reads every percent sign that two digits follow as the octet they stand for. -/
def decodeBytes : Bytes → Bytes
  | 0x25 :: a :: b :: rest =>
    match digit? a, digit? b with
    | some high, some low => (high * 16 + low) :: decodeBytes rest
    | _, _ => 0x25 :: decodeBytes (a :: b :: rest)
  | b :: rest => b :: decodeBytes rest
  | [] => []

/-- The decoded text, if its octets are well-formed. -/
def decode? (t : Text) : Option Text := Utf8.decode? (decodeBytes (Utf8.encode t))

/-- The decoded text, or the text itself where its octets are not well-formed. -/
def component (t : Text) : Text := (decode? t).getD t

/-- A text in which a plus sign stands for a space. -/
def spaced (t : Text) : Text := t.map fun c => if c = '+' then ' ' else c

/-- The decoded name or value of a query, in which a plus sign stands for a space. -/
def queryComponent (t : Text) : Text := component (spaced t)

end UploadInbox.Percent
