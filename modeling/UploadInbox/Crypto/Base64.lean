import UploadInbox.Text.Basic

/-!
# Base 64

Four characters stand for three octets. Both alphabets have one written form for each sequence of
octets: bits that belong to no octet are zero, and the filling at the end is either always there or
never.
-/
namespace UploadInbox.Base64

def alphanumeric? (c : Char) : Option Nat :=
  if c.isUpper then some (c.toNat - 65)
  else if c.isLower then some (c.toNat - 71)
  else if c.isDigit then some (c.toNat + 4)
  else none

def common? (c : Char) : Option Nat :=
  if c = '+' then some 62 else if c = '/' then some 63 else alphanumeric? c

/-- The value of a character of the alphabet that addresses and file names can hold. -/
def urlSafe? (c : Char) : Option Nat :=
  if c = '-' then some 62 else if c = '_' then some 63 else alphanumeric? c

/-- The octets that groups of four values stand for; the last group may be shorter. -/
def octets? : List Nat → Option Bytes
  | [] => some []
  | [_] => none
  | [a, b] => if b % 16 = 0 then some [UInt8.ofNat (a * 4 + b / 16)] else none
  | [a, b, c] =>
    if c % 4 = 0 then
      some [UInt8.ofNat (a * 4 + b / 16), UInt8.ofNat (b % 16 * 16 + c / 4)]
    else none
  | a :: b :: c :: d :: rest =>
    (octets? rest).map fun bytes =>
      UInt8.ofNat (a * 4 + b / 16) :: UInt8.ofNat (b % 16 * 16 + c / 4)
        :: UInt8.ofNat (c % 4 * 64 + d) :: bytes

def values? (value? : Char → Option Nat) : Text → Option (List Nat)
  | [] => some []
  | c :: rest =>
    match value? c with
    | some n => (values? value? rest).map (n :: ·)
    | none => none

/-- The octets of a text in the alphabet of addresses, without filling. -/
def decodeUrlSafe? (t : Text) : Option Bytes := (values? urlSafe? t).bind octets?

/-- The octets of a text in the common alphabet, filled to groups of four. -/
def decodePadded? (t : Text) : Option Bytes :=
  let digits := Text.trimEnd (· = '=') t
  let filling := t.length - digits.length
  if t.length % 4 = 0 ∧ filling ≤ 2 then (values? common? digits).bind octets? else none

end UploadInbox.Base64
