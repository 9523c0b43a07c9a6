import UploadInbox.Digest.Sha2
import UploadInbox.Text.Utf8

/-!
# Distinguished encoding

Values are written one after the other, each as a tag, a length and that many octets. Sequences
hold values again; of the other kinds only those that keys and certificates are found by are told
apart.
-/
namespace UploadInbox.Der

inductive Value where
  /-- A whole number, as its octets. -/
  | integer (octets : Bytes)
  | bits (octets : Bytes)
  | octets (octets : Bytes)
  /-- The registered name of a thing, as its octets. -/
  | identifier (octets : Bytes)
  | sequence (items : List Value)
  | other
  deriving Repr

/-- The length at the front of some octets, and what follows it. -/
def length? : Bytes → Option (Nat × Bytes)
  | [] => none
  | b :: rest =>
    if b < 0x80 then some (b.toNat, rest)
    else
      let size := b.toNat - 0x80
      if 8 < size ∨ rest.length < size then none
      else some (Sha2.ofBigEndian (rest.take size), rest.drop size)

/-- Octets of seven bits each, up to and with the first that has none after it. -/
def dropLongTag : Bytes → Option Bytes
  | [] => none
  | b :: rest => if b < 0x80 then some rest else dropLongTag rest

def isPrintable (bytes : Bytes) : Bool :=
  bytes.all fun b =>
    let c := Char.ofNat b.toNat
    c.isAlphanum || " '()+,-./:=?*@&".toList.contains c

def isString (tag : UInt8) (bytes : Bytes) : Bool :=
  if tag = 0x0C ∨ tag = 0x14 ∨ tag = 0x1C then (Utf8.decode? bytes).isSome
  else if tag = 0x13 then isPrintable bytes
  else if tag = 0x16 then bytes.all (· < 0x80)
  else if tag = 0x17 then bytes.length = 13
  else if tag = 0x18 then 15 ≤ bytes.length
  else true

def values? : Nat → Bytes → Option (List Value)
  | _, [] => some []
  | 0, _ => none
  | fuel + 1, head :: rest =>
    match if head &&& 0x1F = 0x1F then dropLongTag rest else some rest with
    | none => none
    | some rest =>
      match length? rest with
      | none => none
      | some (size, rest) =>
        if rest.length < size then none
        else
          let body := rest.take size
          let value : Option Value :=
            if head &&& 0xC0 ≠ 0 then some .other
            else
              let tag := head &&& 0x1F
              if tag = 2 then some (.integer body)
              else if tag = 3 then some (.bits (body.drop 1))
              else if tag = 4 then some (.octets body)
              else if tag = 6 then if body.isEmpty then none else some (.identifier body)
              else if tag = 16 then (values? fuel body).map .sequence
              else if tag = 17 then (values? fuel body).map fun _ => .other
              else if tag = 1 ∧ size ≠ 1 then none
              else if isString tag body then some .other
              else none
          match value, values? fuel (rest.drop size) with
          | some value, some values => some (value :: values)
          | _, _ => none

/-- The values that octets hold, of which there is at least one. -/
def ofBytes? (bytes : Bytes) : Option (List Value) :=
  if bytes.isEmpty then none else values? (2 * bytes.length) bytes

mutual

/-- The first result among values and, in their order, what their sequences hold. -/
def findIn {α : Type} (f : Value → Option α) : List Value → Option α
  | [] => none
  | value :: rest =>
    match findValue f value with
    | some a => some a
    | none => findIn f rest

def findValue {α : Type} (f : Value → Option α) : Value → Option α
  | .sequence items => findIn f items
  | value => f value

end

/-- The first string of bits or octets. -/
def firstString? (values : List Value) : Option Bytes :=
  findIn (fun
    | .bits bytes => some bytes
    | .octets bytes => some bytes
    | _ => none) values

/-- The number that octets stand for, if it is above zero and written with the fewest octets. -/
def positive? : Bytes → Option Nat
  | [] => none
  | [b] => if b = 0 ∨ 0x80 ≤ b then none else some b.toNat
  | a :: b :: rest =>
    if 0x80 ≤ a ∨ (a = 0 ∧ b < 0x80) then none else some (Sha2.ofBigEndian (a :: b :: rest))

end UploadInbox.Der
