import UploadInbox.Text.Basic

/-!
# Hexadecimal digits

The sixteen digits in both cases, and the two-digit form of an octet.
-/
namespace UploadInbox.Hex

/-- The value of a hexadecimal digit of either case. -/
def value? (c : Char) : Option Nat :=
  if '0' ≤ c ∧ c ≤ '9' then some (c.toNat - 48)
  else if 'a' ≤ c ∧ c ≤ 'f' then some (c.toNat - 87)
  else if 'A' ≤ c ∧ c ≤ 'F' then some (c.toNat - 55)
  else none

def digit (n : Nat) : Char := Char.ofNat (if n < 10 then 48 + n else 87 + n)

def upperDigit (n : Nat) : Char := Char.ofNat (if n < 10 then 48 + n else 55 + n)

def octet (b : UInt8) : Text := [digit (b.toNat / 16), digit (b.toNat % 16)]

def upperOctet (b : UInt8) : Text := [upperDigit (b.toNat / 16), upperDigit (b.toNat % 16)]

def encode (bytes : Bytes) : Text := bytes.flatMap octet

def decode? : Text → Option Bytes
  | [] => some []
  | [_] => none
  | a :: b :: rest => do
    let high ← value? a
    let low ← value? b
    let bytes ← decode? rest
    return UInt8.ofNat (high * 16 + low) :: bytes

/-- A number in lowercase digits, without leading zeros. -/
def ofNat (n : Nat) : Text := Nat.toDigits 16 n

end UploadInbox.Hex
