import UploadInbox.Text.Utf8

/-!
# Files

The files that a configuration may name, by path. A text file is one whose octets are a text.
-/
namespace UploadInbox

structure Files where
  content? : Text → Option Bytes

namespace Files

/-- The steps of a path, those that lead nowhere left out, if it is the path of a file below the
directory that paths start from. -/
def steps? (path : Text) : Option (List Text) :=
  let steps := Text.fields '/' path
  if steps.head? = some [] ∨ steps.getLast? = some [] ∨ steps.getLast? = some ['.'] then none
  else some (steps.filter fun step => !step.isEmpty && step ≠ ['.'])

def ofList (entries : List (Text × Bytes)) : Files where
  content? path :=
    (steps? path).bind fun steps =>
      (entries.find? fun entry => steps? entry.1 = some steps).map (·.2)

def read (files : Files) (path : Text) : Except Text Bytes :=
  match files.content? path with
  | some bytes => .ok bytes
  | none => .error "No such file or directory (os error 2)"

def readText (files : Files) (path : Text) : Except Text Text :=
  match files.read path with
  | .error e => .error e
  | .ok bytes =>
    match Utf8.decode? bytes with
    | some t => .ok t
    | none => .error "stream did not contain valid UTF-8"

end Files
end UploadInbox
