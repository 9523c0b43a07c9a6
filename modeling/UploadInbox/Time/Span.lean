import UploadInbox.Text.Decimal

/-!
# Spans of time

A span is shown in the largest unit that it reaches, of seconds, milliseconds, microseconds and
nanoseconds, with only as many decimal places as it needs.
-/
namespace UploadInbox

structure Span where
  nanoseconds : Nat
  deriving DecidableEq, Repr

namespace Span

def microseconds (n : Nat) : Span := ⟨n * 1000⟩

def seconds (n : Nat) : Span := ⟨n * 1000000000⟩

/-- A number of parts, `size` of which make a unit, with its decimal places before the unit. -/
def inUnit (places : Nat) (unit : Text) (parts : Nat) : Text :=
  let size := Nat.pow 10 places
  let decimals := Text.trimEnd (· = '0') (Decimal.padded places (parts % size))
  Decimal.ofNat (parts / size) ++ (if decimals.isEmpty then [] else '.' :: decimals) ++ unit

def shown (span : Span) : Text :=
  let n := span.nanoseconds
  if 1000000000 ≤ n then inUnit 9 "s" n
  else if 1000000 ≤ n then inUnit 6 "ms" n
  else if 1000 ≤ n then inUnit 3 "µs" n
  else Decimal.ofNat n ++ "ns"

end Span
end UploadInbox
