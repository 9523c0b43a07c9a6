import UploadInbox.Error
import UploadInbox.Percent

/-!
# User namespaces

The first segment of a path names the user, and what follows it names an object of that user. The
key of the object in the shared bucket is both together, decoded.

Source: `split_namespace` (`split?`), `extract_username` (`user`), `object_key` and `is_user_root`
(`isRoot`).
-/
namespace UploadInbox.Namespace

/-- The first segment of a path and what follows it, as they are written. -/
def split? (path : Text) : Option (Text × Text) :=
  match path.dropWhile (· = '/') with
  | [] => none
  | rest => some ((Text.cut? '/' rest).getD (rest, []))

def noUser (path : Text) : Error :=
  .missingIdentity ("no user segment in path '" ++ path ++ "'")

def user (path : Text) : Except Error Text :=
  match split? path with
  | none => .error (noUser path)
  | some (segment, _) =>
    match Percent.decode? segment with
    | none => .error (.missingIdentity ("user segment '" ++ segment ++ "' is not UTF-8"))
    | some name =>
      if name.isEmpty || name.contains '/' then
        .error (.missingIdentity ("invalid user segment '" ++ segment ++ "'"))
      else .ok name

def objectKey (path : Text) : Except Error Text :=
  match user path with
  | .error e => .error e
  | .ok name =>
    match split? path with
    | none => .error (.missingObjectKey path)
    | some (_, []) => .error (.missingObjectKey ("no object key below '/" ++ name ++ "/'"))
    | some (_, rest) =>
      match Percent.decode? rest with
      | none => .error (.missingObjectKey ("object key '" ++ rest ++ "' is not UTF-8"))
      | some key => .ok (name ++ '/' :: key)

/-- Whether a path names a user and no object. -/
def isRoot (path : Text) : Bool :=
  match split? path with
  | some (_, rest) => rest.all (· = '/')
  | none => false

end UploadInbox.Namespace
