import UploadInbox.Percent

/-!
# Query parameters

A query is parameters with ampersands between them, each a name and, after the first equals sign,
a value. Empty parameters do not count. Names are compared after decoding, so that no spelling of
a name escapes a decision about it.

Source: `query_pairs` (`pairs`), `has_query_param` (`has`) and `request_target` (`target`).
-/
namespace UploadInbox.Query

/-- The parameters of a query that are not empty, as they are written. -/
def parameters (query : Text) : List Text := (Text.fields '&' query).filter (!·.isEmpty)

def nameAndValue (parameter : Text) : Text × Text := (Text.cut? '=' parameter).getD (parameter, [])

/-- The names and values of a query, as they are written. -/
def pairs (query : Text) : List (Text × Text) := (parameters query).map nameAndValue

/-- Whether a query has a parameter whose decoded name is the given one. -/
def has (name : Text) (query : Option Text) : Bool :=
  (pairs (query.getD [])).any fun pair => Percent.queryComponent pair.1 = name

def target (path : Text) (query : Option Text) : Text :=
  match query with
  | some (c :: rest) => path ++ '?' :: c :: rest
  | _ => path

def nonEmpty? (query : Option Text) : Option Text := query.filter (!·.isEmpty)

end UploadInbox.Query
