import UploadInbox.Log
import UploadInbox.Text.Blank
import UploadInbox.Text.Utf8

/-!
# Log filters

Which records are written. A filter is a list of rules with commas between them: a level, which goes
for all parts of the service, the name of a part, or both with an equals sign between them. Of the
rules on the part that a record is about the most specific one decides, and of equally specific ones
the last.

Source: the filter that `init_subscriber` reads from the environment.
-/
namespace UploadInbox

structure LogRule where
  /-- How the names of the parts begin that the rule is on; `none` is all of them. -/
  target : Option Text
  /-- The greatest verbosity that is written; zero is nothing. -/
  verbosity : Nat
  deriving DecidableEq, Repr

structure LogFilter where
  rules : List LogRule
  deriving DecidableEq, Repr

namespace LogFilter

/-- The verbosities by their names, and none at all. -/
def named : List (Text × Nat) := [
  ("off", 0), ("error", 1), ("warn", 2), ("info", 3), ("debug", 4), ("trace", 5)]

/-- The verbosity of a text: a name in any case, or a number. -/
def verbosity? (t : Text) : Option Nat :=
  match Decimal.readSigned? t with
  | some n => if n ≤ 5 then some n else none
  | none => (named.find? fun (name, _) => name = Text.lowerAscii t).map (·.2)

def startsRule (c : Char) : Bool :=
  c.isAlphanum || c = '-' || c = ':' || c = '_' || 0x80 ≤ c.toNat

/-- The verbosity after the equals sign of a rule, the greatest one if there is nothing. -/
def limit? (t : Text) : Option Nat := if t.isEmpty then some 5 else verbosity? t

/-- A rule on what happens in spans, which no record of the service is part of: only its form
counts. -/
def spanRule? (t : Text) : Option LogRule :=
  match Text.cut? ']' t with
  | some (_, []) => some ⟨none, 0⟩
  | some (_, '=' :: limit) => (limit? limit).map fun _ => ⟨none, 0⟩
  | _ => none

def rule? (t : Text) : Option LogRule :=
  match t with
  | [] => none
  | c :: _ =>
    let name := t.takeWhile fun c => c ≠ '=' && c ≠ '['
    match t.drop name.length with
    | '[' :: span => if c = '[' || startsRule c then spanRule? span else none
    | '=' :: limit =>
      if startsRule c then (limit? limit).map fun n => ⟨some name, n⟩ else none
    | _ =>
      if startsRule c then
        match verbosity? t with
        | some n => some ⟨none, n⟩
        | none => some ⟨some t, 5⟩
      else none

/-- Whether a rule says anything about records outside of spans. -/
def isSpanRule (t : Text) : Bool := (t.takeWhile (· ≠ '=')).contains '['

def ofText? (t : Text) : Option LogFilter := do
  let parts := ((Text.fields ',' t).filter fun part => !part.isEmpty).map
    (Text.trim Blank.isBlank)
  let rules ← parts.mapM rule?
  return ⟨((parts.zip rules).filter fun (part, _) => !isSpanRule part).map (·.2)⟩

/-- The filter in force where none is asked for. -/
def standard : LogFilter := ⟨[⟨none, LogLevel.info.verbosity⟩]⟩

/-- The filter that the value of a variable asks for, or the standard one. -/
def ofValue (value : Option Text) : LogFilter := (value.bind ofText?).getD standard

def isAbout (target : Text) (rule : LogRule) : Bool :=
  match rule.target with
  | none => true
  | some start => Text.startsWith start target

def specificity (rule : LogRule) : Nat :=
  match rule.target with
  | none => 0
  | some start => (Utf8.encode start).length + 1

def deciding? (filter : LogFilter) (target : Text) : Option LogRule :=
  (filter.rules.filter (isAbout target)).foldl (fun best rule =>
    match best with
    | none => some rule
    | some other => if specificity other ≤ specificity rule then some rule else best) none

def allows (filter : LogFilter) (record : LogRecord) : Bool :=
  match filter.deciding? record.target with
  | none => false
  | some rule => record.level.verbosity ≤ rule.verbosity

end LogFilter
end UploadInbox
