import UploadInbox.Http.Method
import UploadInbox.Text.Charset

/-!
# Media types

The type of a content is two tokens with a slash between them and parameters after semicolons. Only
the parameter that names the encoding of a text matters here; a type that is not well-formed has no
parameters.
-/
namespace UploadInbox.MediaType

/-- The value of a parameter in quotes after the first of them, and what follows it. -/
def quotedValue? : Text → Option (Text × Text)
  | [] => none
  | c :: rest =>
    match Text.cut? '"' rest with
    | none => none
    | some (value, rest) =>
      if (c :: value).all fun d => 31 < d.toNat && d.toNat ≠ 127 then
        match rest.dropWhile (· = ' ') with
        | ';' :: rest => some (c :: value, rest)
        | [] => some (c :: value, [])
        | _ => none
      else none

def value? (t : Text) : Option (Text × Text) :=
  match t with
  | '"' :: rest => quotedValue? rest
  | t =>
    let value := t.takeWhile isTokenChar
    match t.drop value.length with
    | [] => some (value, [])
    | ';' :: rest => if value.isEmpty then none else some (value, rest)
    | _ => none

def parameters? : Nat → Text → Option (List (Text × Text))
  | 0, _ => none
  | fuel + 1, t =>
    match t.dropWhile (· = ' ') with
    | [] => some []
    | t =>
      let name := t.takeWhile isTokenChar
      match t.drop name.length with
      | '=' :: rest =>
        if name.isEmpty then none
        else
          (value? rest).bind fun (value, rest) =>
            (parameters? fuel rest).map ((Text.lowerAscii name, value) :: ·)
      | _ => none

def ofText? (t : Text) : Option (List (Text × Text)) :=
  let kind := t.takeWhile isTokenChar
  match t.drop kind.length with
  | '/' :: rest =>
    let subtype := rest.takeWhile isTokenChar
    match rest.drop subtype.length with
    | [] => if kind.isEmpty then none else some []
    | ';' :: rest =>
      if kind.isEmpty || subtype.isEmpty then none else parameters? (rest.length + 1) rest
    | _ => none
  | _ => none

/-- The encoding of a text of some type; one that names none that is known counts as the common. -/
def charset (t : Text) : Charset :=
  let parameters := (ofText? t).getD []
  let label := parameters.find? fun parameter => parameter.1 = ("charset" : Text)
  (label.bind fun parameter => Charset.ofLabel? parameter.2).getD .utf8

end UploadInbox.MediaType
