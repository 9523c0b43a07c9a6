import UploadInbox.Text.Decimal

/-!
# Log records

What the service records about its work: a level, a message and named values. Records are written
as JSON unless plain text is asked for.

Source: `LogFormat` with `from_env_value`, and the values that records are given throughout.
-/
namespace UploadInbox

inductive LogFormat where
  | json | text
  deriving DecidableEq, Repr

namespace LogFormat

/-- The format that the value of a variable asks for: text if it says so in any case. -/
def ofValue (value : Option Text) : LogFormat :=
  match value with
  | some t => if Text.lowerAscii t = "text" then text else json
  | none => json

end LogFormat

/-- How much a record matters, the least first. -/
inductive LogLevel where
  | trace | debug | info | warn | error
  deriving DecidableEq, Repr

namespace LogLevel

def name : LogLevel → Text
  | trace => "TRACE"
  | debug => "DEBUG"
  | info => "INFO"
  | warn => "WARN"
  | error => "ERROR"

/-- How many levels matter at least as much. -/
def verbosity : LogLevel → Nat
  | error => 1
  | warn => 2
  | info => 3
  | debug => 4
  | trace => 5

end LogLevel

inductive LogValue where
  | text (t : Text)
  | number (n : Nat)
  | flag (b : Bool)
  deriving DecidableEq, Repr

def LogValue.shown : LogValue → Text
  | text t => t
  | number n => Decimal.ofNat n
  | flag true => "true"
  | flag false => "false"

structure LogRecord where
  level : LogLevel
  /-- The part of the service that the record is about. -/
  target : Text
  message : Text
  fields : List (Text × LogValue)
  deriving DecidableEq, Repr

end UploadInbox
