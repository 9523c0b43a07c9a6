import UploadInbox.Command.Startup
import UploadInbox.Log.Filter

/-!
# Reports

What a call shows: a page or records on the output, what went wrong on the other one, and a number
that tells how the call ended.

Source: `init_subscriber`, and what `main` ends with.
-/
namespace UploadInbox.Command

structure Report where
  exit : Nat
  page : Text
  records : List LogRecord
  errors : Text

namespace Report

/-- The variable that says which records are written. -/
def filterVariable : Text := "RUST_LOG"

/-- The variable that says how records are written. -/
def formatVariable : Text := "S3INBOX_LOG_FORMAT"

def filter (env : Environment) : LogFilter := .ofValue (env.value? filterVariable)

def format (env : Environment) : LogFormat := .ofValue (env.value? formatVariable)

def ofStart (env : Environment) (start : Start) : Report :=
  let records := start.records.filter (filter env).allows
  match start.ending with
  | .tested | .ready _ _ => ⟨0, [], records, []⟩
  | .failed fault => ⟨1, [], records, fault.message⟩

def ofCall (s : Surroundings) : Call → Report
  | .help => ⟨0, helpPage, [], []⟩
  | .version => ⟨0, versionPage, [], []⟩
  | .misused misuse => ⟨2, [], [], misuse.message⟩
  | .run options => ofStart s.environment (Start.ofOptions s options)

end Report
end UploadInbox.Command
