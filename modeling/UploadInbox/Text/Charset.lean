import UploadInbox.Text.OctetTables
import UploadInbox.Text.Utf8

/-!
# Character encodings

The encodings that octets can be declared to be in, by label. Decoding refuses nothing: what is not
well-formed gives U+FFFD. A mark at the front says more about the encoding than any label does, and
is no part of the text.
-/
namespace UploadInbox

inductive Charset where
  | utf8
  /-- Units of sixteen bits. -/
  | utf16 (bigEndian : Bool)
  /-- One octet for each character, with the characters of the octets from 128 on. -/
  | octets (upper : Text)
  deriving DecidableEq

namespace Charset

/-- The character that stands for what is not well-formed. -/
def replacement : Char := '\uFFFD'

/-- The units of sixteen bits that octets make, and whether an octet is left over. -/
def units (bigEndian : Bool) : Bytes → List Nat × Bool
  | [] => ([], false)
  | [_] => ([], true)
  | a :: b :: rest =>
    let (later, odd) := units bigEndian rest
    let unit := if bigEndian then a.toNat * 256 + b.toNat else b.toNat * 256 + a.toNat
    (unit :: later, odd)

/-- The characters of units, two of which may make one character. -/
def ofUnits : List Nat → Text
  | [] => []
  | [unit] => if 0xD800 ≤ unit ∧ unit < 0xE000 then [replacement] else [Char.ofNat unit]
  | high :: low :: rest =>
    if 0xD800 ≤ high ∧ high < 0xE000 then
      if high < 0xDC00 ∧ 0xDC00 ≤ low ∧ low < 0xE000 then
        Char.ofNat (0x10000 + (high - 0xD800) * 1024 + (low - 0xDC00)) :: ofUnits rest
      else replacement :: ofUnits (low :: rest)
    else Char.ofNat high :: ofUnits (low :: rest)

def ofOctet (upper : Text) (b : UInt8) : Char :=
  if b < 0x80 then Char.ofNat b.toNat else upper.getD (b.toNat - 128) replacement

def decode : Charset → Bytes → Text
  | utf8, bytes => Utf8.decodeLossy bytes
  | utf16 bigEndian, bytes =>
    let (units, odd) := units bigEndian bytes
    ofUnits units ++ if odd then [replacement] else []
  | octets upper, bytes => bytes.map (ofOctet upper)

def utf8Labels : List Text :=
  ["unicode-1-1-utf-8", "unicode11utf8", "unicode20utf8", "utf-8", "utf8", "x-unicode20utf8"]

def bigEndianLabels : List Text := ["unicodefffe", "utf-16be"]

def littleEndianLabels : List Text :=
  ["csunicode", "iso-10646-ucs-2", "ucs-2", "unicode", "unicodefeff", "utf-16", "utf-16le"]

/-- Whether a character does not count around a label. -/
def isLabelBlank (c : Char) : Bool :=
  c = ' ' || c = '\t' || c = '\n' || c = '\r' || c.toNat = 12

/-- The encoding of a label, in any case. -/
def ofLabel? (label : Text) : Option Charset :=
  let label := Text.lowerAscii (Text.trim isLabelBlank label)
  if utf8Labels.contains label then some utf8
  else if bigEndianLabels.contains label then some (utf16 true)
  else if littleEndianLabels.contains label then some (utf16 false)
  else (tables.find? fun table => table.labels.contains label).map fun table => octets table.upper

/-- The text of octets that are declared to be in an encoding, unless a mark says otherwise. -/
def text (declared : Charset) : Bytes → Text
  | 0xEF :: 0xBB :: 0xBF :: rest => utf8.decode rest
  | 0xFE :: 0xFF :: rest => (utf16 true).decode rest
  | 0xFF :: 0xFE :: rest => (utf16 false).decode rest
  | bytes => declared.decode bytes

end Charset
end UploadInbox
