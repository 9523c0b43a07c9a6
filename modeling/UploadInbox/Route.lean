import UploadInbox.Namespace
import UploadInbox.Operation

/-!
# Routes into the shared bucket

Callers see a tree of their own; the store has one bucket for all of them. A route says where in
the bucket a request goes: uploads below the prefix of their user, listings to the root of the
bucket and confined to that prefix, everything else where it was addressed.

Source: `LISTING_PARAMS`, `is_listing_query`, `scope_listing_query` (`scopeListing`), `rewrite`
(`Route.target`), and `UpstreamTarget` with its `path_and_query`.
-/
namespace UploadInbox

structure Target where
  path : Text
  query : Option Text
  deriving DecidableEq, Repr

def Target.pathAndQuery (target : Target) : Text := Query.target target.path target.query

namespace Route

/-- The parameters that a listing may carry. A query with any other asks for something else. -/
def listingParameters : List Text := [
  "list-type", "prefix", "delimiter", "max-keys", "continuation-token", "start-after",
  "fetch-owner", "encoding-type", "marker", "uploads", "key-marker", "upload-id-marker",
  "max-uploads", "versions", "version-id-marker", "x-id"]

/-- Whether every parameter of a query belongs to a listing. -/
def isListing (query : Option Text) : Bool :=
  (Query.pairs (query.getD [])).all fun pair =>
    listingParameters.contains (Percent.queryComponent pair.1)

def isPrefixParameter (parameter : Text) : Bool :=
  Percent.queryComponent (Query.nameAndValue parameter).1 = "prefix"

/-- A parameter of a listing, its prefix put below the one given. -/
def scopeParameter (userPrefix parameter : Text) : Text :=
  if isPrefixParameter parameter then
    "prefix=" ++ userPrefix ++ (Query.nameAndValue parameter).2
  else parameter

def scopeParameters (userPrefix : Text) (parameters : List Text) : List Text :=
  parameters.map (scopeParameter userPrefix) ++
    if parameters.any isPrefixParameter then [] else ["prefix=" ++ userPrefix]

/-- The query of a listing, confined to the namespace of a user. -/
def scopeListing (query : Option Text) (user : Text) : Text :=
  Text.join ['&']
    (scopeParameters (Percent.encode user ++ "%2F") (Query.parameters (query.getD [])))

/-- The target of a request on behalf of a user. -/
def target (method : Method) (path : Text) (query : Option Text) (bucket user : Text) :
    Except Error Target :=
  let root : Text := '/' :: bucket ++ ['/']
  if method = .get && Query.has "location" query then
    .ok ⟨root, Query.nonEmpty? query⟩
  else if method = .get && (Query.has "delimiter" query || Namespace.isRoot path)
      && isListing query then
    .ok ⟨root, some (scopeListing query user)⟩
  else if method.isUpload || (method = .delete && Query.has "uploadId" query) then
    match Namespace.split? path with
    | none => .error (Namespace.noUser path)
    | some (_, []) =>
      .error (.missingObjectKey (method.name ++ ' ' :: path ++ " has no object key"))
    | some (segment, rest) =>
      -- As it was written, not as the name that it stands for.
      .ok ⟨'/' :: bucket ++ '/' :: segment ++ '/' :: rest, Query.nonEmpty? query⟩
  else .ok ⟨path, Query.nonEmpty? query⟩

end Route
end UploadInbox
