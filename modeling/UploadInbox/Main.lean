import Std.Time
import UploadInbox.Command.Report
import UploadInbox.Log.Line

/-!
# The program

Reads what a call may need of its surroundings, and shows what the call comes to. No connection is
opened: the program goes as far as a start can go without a broker and a store.
-/
namespace UploadInbox.Command

/-- The values of variables, as far as they are set; the system gives each of them as a text. -/
def readVariables (names : List Text) : IO Environment := do
  let entries ← names.filterMapM fun name => do
    let value ← IO.getEnv (String.ofList name)
    return value.map fun value => (name, value.toList)
  return .ofTexts entries

/-- The contents of files, as far as they can be read. -/
def readFiles (paths : List Text) : IO Files := do
  let entries ← paths.filterMapM fun path => do
    try
      let content ← IO.FS.readBinFile (String.ofList path)
      return some (path, content.toList)
    catch _ => return none
  return ⟨fun path => (entries.find? fun entry => entry.1 = path).map (·.2)⟩

/-- What surrounds a call: the variables and the files that it can come to ask for. -/
def readSurroundings (call : Call) (seconds : Nat) : IO Surroundings := do
  let configPaths := match call with
    | .run options => [options.config]
    | _ => []
  let files ← readFiles configPaths
  let document := ((configPaths.head?.bind files.content?).bind Utf8.decode?).getD []
  let environment ← readVariables
    (Report.filterVariable :: Report.formatVariable :: Environment.names document)
  let namedPaths := ((Config.ofText environment document).toOption.map Config.paths).getD []
  return {
    files := ← readFiles (configPaths ++ namedPaths)
    environment
    now := UInt64.ofNat seconds
    broker := fun _ => .failed (.io "no connection") .connection
    store := fun _ => .unreachable "no connection" }

end UploadInbox.Command

open UploadInbox UploadInbox.Command in
def main (arguments : List String) : IO UInt32 := do
  let now ← Std.Time.Timestamp.now
  let seconds := now.toSecondsSinceUnixEpoch.val.toNat
  let microseconds := (now.toNanosecondsSinceUnixEpoch.val.toNat / 1000) % 1000000
  let call := Call.ofArguments (arguments.map String.toList)
  let surroundings ← readSurroundings call seconds
  let report := Report.ofCall surroundings call
  let time := (Civil.ofSeconds seconds).extended microseconds
  let format := Report.format surroundings.environment
  IO.print (String.ofList report.page)
  for record in report.records do
    IO.println (String.ofList (record.line format time))
  IO.eprint (String.ofList report.errors)
  return UInt32.ofNat report.exit
