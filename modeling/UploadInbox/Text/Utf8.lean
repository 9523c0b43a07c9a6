import UploadInbox.Text.Basic

/-!
# Octets of a text

`encode` writes each character as one to four octets. `scan` reads octets back: each well-formed
sequence gives its character, and each longest malformed part gives `none` once. Strict reading
refuses any malformed part, lossy reading puts the replacement character in its place.
-/
namespace UploadInbox.Utf8

def encode (t : Text) : Bytes := t.flatMap String.utf8EncodeChar

/-- What has been read of a character that is not finished. -/
inductive Pending where
  /-- Nothing: the next octet begins a character. -/
  | idle
  /-- The value so far, the number of octets to come, and the range of the next of them. -/
  | within (value : Nat) (missing : Nat) (low high : UInt8)
  deriving DecidableEq, Repr

def lead (b : UInt8) : List (Option Char) × Pending :=
  if b < 0x80 then ([some (Char.ofNat b.toNat)], .idle)
  else if b < 0xC2 then ([none], .idle)
  else if b < 0xE0 then ([], .within (b.toNat - 0xC0) 0 0x80 0xBF)
  else if b = 0xE0 then ([], .within 0 1 0xA0 0xBF)
  else if b = 0xED then ([], .within 0xD 1 0x80 0x9F)
  else if b < 0xF0 then ([], .within (b.toNat - 0xE0) 1 0x80 0xBF)
  else if b = 0xF0 then ([], .within 0 2 0x90 0xBF)
  else if b < 0xF4 then ([], .within (b.toNat - 0xF0) 2 0x80 0xBF)
  else if b = 0xF4 then ([], .within 4 2 0x80 0x8F)
  else ([none], .idle)

/-- Reads one octet. One that cannot continue the character at hand ends it as malformed and is
read again as the first of the next. -/
def step : Pending → UInt8 → List (Option Char) × Pending
  | .idle, b => lead b
  | .within value missing low high, b =>
    if low ≤ b ∧ b ≤ high then
      let value := value * 64 + (b.toNat - 0x80)
      match missing with
      | 0 => ([some (Char.ofNat value)], .idle)
      | n + 1 => ([], .within value n 0x80 0xBF)
    else
      let (out, next) := lead b
      (none :: out, next)

def scanFrom : Pending → Bytes → List (Option Char)
  | .idle, [] => []
  | .within .., [] => [none]
  | state, b :: rest =>
    let (out, next) := step state b
    out ++ scanFrom next rest

/-- The characters of some octets, `none` standing for each longest malformed part. -/
def scan (bytes : Bytes) : List (Option Char) := scanFrom .idle bytes

/-- All of the list's values, if none is missing. -/
def allSome : List (Option Char) → Option Text
  | [] => some []
  | none :: _ => none
  | some c :: rest => (allSome rest).map (c :: ·)

def decode? (bytes : Bytes) : Option Text := allSome (scan bytes)

/-- The text of any octets, with U+FFFD for each malformed part. -/
def decodeLossy (bytes : Bytes) : Text := (scan bytes).map (·.getD '\uFFFD')

end UploadInbox.Utf8
