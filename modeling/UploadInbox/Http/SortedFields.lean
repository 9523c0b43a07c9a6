import UploadInbox.Http.Headers
import UploadInbox.Text.Basic

/-!
# Sorted fields

Named values in ascending order of their names, each name once, as a signature lists them and as
a reader of headers looks them up.

Source: the maps of `SigningParams` and `headers_to_map` (`lastVisible`).
-/
namespace UploadInbox

abbrev SortedFields := List (Text × Text)

namespace SortedFields

/-- Adds a field at the place of its name; `merge` makes one value of two. -/
def put (merge : Text → Text → Text) (name value : Text) : SortedFields → SortedFields
  | [] => [(name, value)]
  | (other, present) :: rest =>
    if other = name then (other, merge present value) :: rest
    else if Text.le name other then (name, value) :: (other, present) :: rest
    else (other, present) :: put merge name value rest

/-- The fields of a list, a later value in the place of an earlier one of the same name. -/
def ofList (fields : List (Text × Text)) : SortedFields :=
  fields.foldl (fun sorted field => put (fun _ later => later) field.1 field.2 sorted) []

/-- The fields of a list, the values of each name with commas between them. -/
def joining (fields : List (Text × Text)) : SortedFields :=
  fields.foldl (fun sorted field =>
    put (fun present later => present ++ ',' :: later) field.1 field.2 sorted) []

def find? (p : Text → Bool) (fields : SortedFields) : Option Text :=
  (List.find? (fun field => p field.1) fields).map (·.2)

end SortedFields

/-- The fields of a request whose values are texts, the last value of each name. -/
def Headers.lastVisible (headers : Headers) : SortedFields := SortedFields.ofList headers.visible

end UploadInbox
