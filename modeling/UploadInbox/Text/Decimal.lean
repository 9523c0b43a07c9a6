import UploadInbox.Text.Basic

/-!
# Decimal numbers

Numbers are written without leading zeros or sign. Reading is bounded: a number of one of the
fixed widths is one or more digits, leading zeros included, whose value fits.
-/
namespace UploadInbox.Decimal

def ofNat (n : Nat) : Text := Nat.toDigits 10 n

def ofInt : Int → Text
  | .ofNat n => ofNat n
  | .negSucc n => '-' :: ofNat (n + 1)

/-- The number with at least `width` digits, zeros in front. -/
def padded (width : Nat) (n : Nat) : Text :=
  let digits := ofNat n
  List.replicate (width - digits.length) '0' ++ digits

def digit? (c : Char) : Option Nat :=
  if '0' ≤ c ∧ c ≤ '9' then some (c.toNat - 48) else none

/-- Reads digits after the value of those already read. -/
def readFrom (value : Nat) : Text → Option Nat
  | [] => some value
  | c :: rest =>
    match digit? c with
    | some d => readFrom (value * 10 + d) rest
    | none => none

/-- The value of one or more digits. -/
def read? : Text → Option Nat
  | [] => none
  | t => readFrom 0 t

/-- The value of one or more digits, which a plus sign may precede. -/
def readSigned? : Text → Option Nat
  | '+' :: t => read? t
  | t => read? t

/-- A number of sixty-four bits, which a plus sign may precede. -/
def readUInt64? (t : Text) : Option UInt64 := do
  let n ← readSigned? t
  if n < UInt64.size then some (UInt64.ofNat n) else none

/-- A number of sixteen bits, which a plus sign may precede. -/
def readUInt16? (t : Text) : Option UInt16 := do
  let n ← readSigned? t
  if n < UInt16.size then some (UInt16.ofNat n) else none

end UploadInbox.Decimal
