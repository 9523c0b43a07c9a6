import UploadInbox.Command.Switch
import UploadInbox.Text.Similarity

/-!
# Arguments

The arguments of a call are read one after the other. A switch stands alone under its long name;
short names may follow one another in one argument. The value of a switch stands in the same
argument or is the next one, and is settled only when something else is read, so a fault of it is
reported after any fault that shows before. Nothing but switches is taken, and each at most once.

Source: `Args`, as `main` has it read.
-/
namespace UploadInbox.Command

structure Options where
  config : Text
  daemon : Bool
  test : Bool
  upgrade : Bool
  deriving DecidableEq, Repr

inductive Misuse where
  /-- An argument that is no switch, with the switch it is like, and the switches told of. -/
  | unexpected (argument : Text) (similar : Option Switch) (told : List Switch)
  /-- A value for a switch that takes none. -/
  | needlessValue (switch : Switch) (value : Text) (told : List Switch)
  | repeated (switch : Switch)
  | missingValue (switch : Switch)
  deriving DecidableEq, Repr

namespace Misuse

def parts : Misuse → List Text
  | unexpected argument similar told =>
    let tips : List Text := similar.toList.map fun switch =>
      "  tip: a similar argument exists: '--" ++ switch.long ++ ['\'']
    ("unexpected argument '" ++ argument ++ "' found") :: tips ++ [usage told]
  | needlessValue switch value told =>
    ["unexpected value '" ++ value ++ "' for '" ++ switch.shown ++
      "' found; no more were expected", usage told]
  | repeated switch =>
    ["the argument '" ++ switch.shown ++ "' cannot be used multiple times", usage []]
  | missingValue switch =>
    ["a value is required for '" ++ switch.shown ++ "' but none was supplied"]

def message (misuse : Misuse) : Text :=
  let hint : Text := "For more information, try '--help'.\n"
  "error: " ++ Text.join "\n\n" (misuse.parts ++ [hint])

end Misuse

inductive Call where
  | run (options : Options)
  | help
  | version
  | misused (misuse : Misuse)
  deriving DecidableEq, Repr

/-- The switches read so far. -/
structure Reading where
  /-- Those that are settled, with their values, in the order in which they were settled. -/
  settled : List (Switch × Text)
  /-- A switch that takes a value and is not settled yet, with its value once that is read. -/
  pending : Option (Switch × Option Text)
  deriving DecidableEq, Repr

namespace Reading

def empty : Reading := ⟨[], none⟩

def switches (r : Reading) : List Switch := r.settled.map (·.1)

/-- Settles a switch with its value. A switch that was settled before is a fault, after which it
counts as not given at all; a value that is empty is a fault too. -/
def settle (r : Reading) (switch : Switch) (value : Option Text) : Reading × Option Misuse :=
  match switch.value?, value with
  | some _, none => (r, some (.missingValue switch))
  | needed, value =>
    if r.switches.contains switch then
      (⟨r.settled.filter fun entry => entry.1 ≠ switch, r.pending⟩, some (.repeated switch))
    else
      let value := value.getD []
      (⟨r.settled ++ [(switch, value)], r.pending⟩,
        if needed.isSome && value.isEmpty then some (.missingValue switch) else none)

def settlePending (r : Reading) : Reading × Option Misuse :=
  match r.pending with
  | none => (r, none)
  | some (switch, value) => settle ⟨r.settled, none⟩ switch value

/-- Settles what is pending, and then goes on if that is no fault. -/
def proceed (r : Reading) (go : Reading → Except Call Reading) : Except Call Reading :=
  match r.settlePending with
  | (_, some misuse) => .error (.misused misuse)
  | (r, none) => go r

/-- Takes a switch, alone or with a value in the same argument. -/
def takeSwitch (r : Reading) (switch : Switch) (value : Option Text) : Except Call Reading :=
  match switch.value?, value with
  | some _, none => r.proceed fun r => .ok ⟨r.settled, some (switch, none)⟩
  | _, _ => r.proceed fun r =>
    match switch with
    | .help => .error .help
    | .version => .error .version
    | switch =>
      match r.settle switch value with
      | (_, some misuse) => .error (.misused misuse)
      | (r, none) => .ok r

def refuse (argument : Text) : Except Call Reading :=
  .error (.misused (.unexpected argument none []))

def refuseLong (r : Reading) (name : Text) : Except Call Reading :=
  let similar := Similarity.nearest? name (Switch.all.map fun switch => (switch.long, switch))
  let told := (r.settlePending.1.switches ++ similar.toList).eraseDups
  .error (.misused (.unexpected ("--" ++ name) similar told))

def takeLong (r : Reading) (argument : Text) : Except Call Reading :=
  let (name, value) :=
    match Text.cut? '=' argument with
    | some (name, value) => (name, some value)
    | none => (argument, none)
  match Switch.ofLong? name with
  | none => r.refuseLong name
  | some switch =>
    match switch.value?, value with
    | none, some value =>
      .error (.misused (.needlessValue switch value (r.switches ++ [switch]).eraseDups))
    | _, value => r.takeSwitch switch value

/-- The value that follows a short name in the same argument. -/
def attached? : Text → Option Text
  | [] => none
  | '=' :: value => some value
  | value => some value

def takeShort (r : Reading) : Text → Except Call Reading
  | [] => .ok r
  | c :: rest =>
    match Switch.ofShort? c with
    | none => refuse ['-', c]
    | some switch =>
      if switch.value?.isSome then r.takeSwitch switch (attached? rest)
      else
        match r.takeSwitch switch none with
        | .error call => .error call
        | .ok r => takeShort r rest

/-- Takes an argument that is the value of a switch before it, or nothing that is wanted. -/
def takeValue (r : Reading) (argument : Text) : Except Call Reading :=
  match r.pending with
  | some (switch, none) => .ok ⟨r.settled, some (switch, some argument)⟩
  | _ => refuse argument

/-- Takes the arguments of a call. After two hyphens alone no argument is wanted. -/
def takeAll (r : Reading) : List Text → Except Call Reading
  | [] => .ok r
  | argument :: rest =>
    match argument with
    | ['-', '-'] =>
      match rest with
      | [] => .ok r
      | argument :: _ => refuse argument
    | _ =>
      let taken :=
        match argument with
        | '-' :: '-' :: name => r.takeLong name
        | '-' :: c :: names => r.takeShort (c :: names)
        | argument => r.takeValue argument
      match taken with
      | .error call => .error call
      | .ok r => takeAll r rest

def options (r : Reading) : Options where
  config := ((r.settled.find? fun entry => entry.1 = .config).map (·.2)).getD standardConfig
  daemon := r.switches.contains .daemon
  test := r.switches.contains .test
  upgrade := r.switches.contains .upgrade

end Reading

def Call.ofArguments (arguments : List Text) : Call :=
  match (Reading.empty.takeAll arguments).bind (·.proceed .ok) with
  | .error call => call
  | .ok r => .run r.options

end UploadInbox.Command
