import UploadInbox.Http.Method
import UploadInbox.Query

/-!
# Operations and what is allowed

Every request performs exactly one operation, told from its method, the end of its target and the
names of its parameters. The inbox takes uploads, listings and the end of an unfinished upload in
parts; it gives nothing out, deletes nothing and changes no rights.

Source: `S3Operation`, `classify` and `is_allowed`.
-/
namespace UploadInbox

inductive Operation where
  | makeBucket | removeBucket | list | put | get | delete | abortMultipart | policy | other
  deriving DecidableEq, Repr

namespace Operation

def all : List Operation :=
  [makeBucket, removeBucket, list, put, get, delete, abortMultipart, policy, other]

def name : Operation → Text
  | makeBucket => "MakeBucket"
  | removeBucket => "RemoveBucket"
  | list => "List"
  | put => "Put"
  | get => "Get"
  | delete => "Delete"
  | abortMultipart => "AbortMultipart"
  | policy => "Policy"
  | other => "Other"

def ofName? (t : Text) : Option Operation := all.find? fun operation => operation.name = t

def classify (method : Method) (path : Text) (query : Option Text) : Operation :=
  -- The end of the query counts where there is one, and not that of the path.
  let container := (Query.target path query).getLast? = some '/'
  match method with
  | .get =>
    if container then get else if Query.has "acl" query then policy else list
  | .delete =>
    if container then removeBucket
    else if Query.has "uploadId" query then abortMultipart
    else delete
  | .put =>
    if container then makeBucket else if Query.has "policy" query then policy else put
  | .post | .other .. => other

/-- Whether the inbox lets an operation through. -/
def isAllowed : Operation → Bool
  | put | list | other | abortMultipart => true
  | makeBucket | removeBucket | delete | policy | get => false

end Operation
end UploadInbox
