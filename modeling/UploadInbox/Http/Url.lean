import UploadInbox.Percent
import UploadInbox.Text.Basic

/-!
# Addresses as a client sends them

What follows the host in an address is written anew before it is sent: characters that may not stand
in a path or a query are encoded, segments of dots are resolved, and the fragment stays here.
-/
namespace UploadInbox.Url

/-- Whether an octet is encoded wherever it stands. -/
def isForbidden (b : UInt8) : Bool :=
  b ≤ 0x20 || 0x7F ≤ b || b == 0x22 || b == 0x23 || b == 0x3C || b == 0x3E

def isForbiddenInPath (b : UInt8) : Bool :=
  isForbidden b || b == 0x3F || b == 0x60 || b == 0x7B || b == 0x7D

def isForbiddenInQuery (b : UInt8) : Bool := isForbidden b || b == 0x27

/-- A text with the octets of a class encoded. -/
def escape (p : UInt8 → Bool) (t : Text) : Text :=
  (Utf8.encode t).flatMap fun b =>
    if p b then '%' :: Hex.upperOctet b else [Char.ofNat b.toNat]

/-- A segment with its encoded dots written as dots. -/
def dotted (segment : Text) : Text :=
  let lower := Text.lowerAscii segment
  if lower = "%2e" then ['.']
  else if lower = ".%2e" ∨ lower = "%2e." ∨ lower = "%2e%2e" then ['.', '.']
  else segment

/-- The segments of a path with those of dots resolved, given the ones before in reverse. -/
def resolve (before : List Text) : List Text → List Text
  | [] => before.reverse
  | segment :: rest =>
    let dots := dotted segment
    if dots = "." then resolve (if rest.isEmpty then [] :: before else before) rest
    else if dots = ".." then
      resolve (if rest.isEmpty then [] :: before.drop 1 else before.drop 1) rest
    else resolve (segment :: before) rest

def resolvePath (path : Text) : Text :=
  '/' :: Text.join ['/'] (resolve [] (Text.fields '/' path))

/-- The request target of what follows the slash after the host. -/
def target (t : Text) : Text :=
  let t := t.filter fun c => c ≠ '\t' && c ≠ '\n' && c ≠ '\r'
  let t := t.takeWhile (· ≠ '#')
  let (path, query) :=
    match Text.cut? '?' t with
    | some (path, query) => (path, some query)
    | none => (t, none)
  let path := resolvePath (path.map fun c => if c = '\\' then '/' else c)
  escape isForbiddenInPath path
    ++ match query with
      | some query => '?' :: escape isForbiddenInQuery query
      | none => []

end UploadInbox.Url
