import UploadInbox.Text.Utf8

/-!
# Request targets

A request target is a path and a query. Blanks, controls and a few delimiters are refused, and a
fragment is dropped. `readTarget` reads what stands in a request line; `read` also accepts the
absolute form with a scheme and an authority, of which only path and query are kept.
-/
namespace UploadInbox

/-- A path and a query as they are written. -/
structure Uri where
  /-- What stands before the query, possibly nothing. -/
  written : Text
  query : Option Text
  deriving DecidableEq, Repr

namespace Uri

inductive Fault where
  | character | authority | format | scheme | length | empty
  deriving DecidableEq, Repr

def Fault.message : Fault → Text
  | character => "invalid uri character"
  | authority => "invalid authority"
  | format => "invalid format"
  | scheme => "scheme too long"
  | length => "uri too long"
  | empty => "empty string"

/-- The most octets that a request target may have. -/
def maxLength : Nat := 65534

/-- The path: the root where only a query is written. -/
def path (uri : Uri) : Text :=
  if uri.written.isEmpty && uri.query.isSome then ['/'] else uri.written

/-- The request target as it is sent: the root where nothing is written. -/
def wire (uri : Uri) : Text :=
  match uri.query with
  | some query => uri.written ++ '?' :: query
  | none => if uri.written.isEmpty then ['/'] else uri.written

def isPathChar (c : Char) : Bool :=
  0x20 < c.toNat && c ≠ '<' && c ≠ '>' && c.toNat ≠ 0x60 && c.toNat ≠ 0x7F

def isQueryChar (c : Char) : Bool :=
  0x20 < c.toNat && c ≠ '"' && c ≠ '<' && c ≠ '>' && c.toNat ≠ 0x7F

def withoutFragment (t : Text) : Text := t.takeWhile (· ≠ '#')

/-- Path and query, whatever the path begins with. -/
def ofText (t : Text) : Except Fault Uri :=
  let kept := withoutFragment t
  let (path, query) := match Text.cut? '?' kept with
    | some (path, query) => (path, some query)
    | none => (kept, none)
  if path.all isPathChar && (query.getD []).all isQueryChar then .ok ⟨path, query⟩
  else .error .character

/-- The target of a request line: empty, `*`, or begun by a slash, a query or a fragment. -/
def readTarget (t : Text) : Except Fault Uri :=
  match t with
  | [] => .ok ⟨[], none⟩
  | c :: _ =>
    if maxLength < (Utf8.encode t).length then .error .length
    else if c = '/' || c = '?' || c = '#' || t = ['*'] then ofText t
    else .error .format

def isSchemeChar (c : Char) : Bool := c.isAlphanum || c = '+' || c = '-' || c = '.'

/-- What follows the scheme and its two slashes, if there is a scheme. -/
def afterScheme? (t : Text) : Except Fault (Option Text) :=
  let scheme := t.takeWhile isSchemeChar
  match t.drop scheme.length with
  | ':' :: '/' :: '/' :: rest =>
    if 64 < scheme.length then .error .scheme else .ok (some rest)
  | _ => .ok none

/-- What has been seen of an authority. -/
structure Authority where
  colons : Nat := 0
  percent : Bool := false
  opened : Bool := false
  closed : Bool := false
  /-- Whether the last character was the sign after the user. -/
  afterUser : Bool := false

def isAuthorityChar (c : Char) : Bool :=
  c.isAlphanum || c = '!' || c = '$' || c = '&' || c = '\'' || c = '(' || c = ')' || c = '*'
    || c = '+' || c = ',' || c = '-' || c = '.' || c = ';' || c = '=' || c = '_' || c = '~'

def Authority.next (a : Authority) (c : Char) : Except Fault Authority :=
  let a := { a with afterUser := false }
  if c = ':' then
    if 8 ≤ a.colons then .error .authority else .ok { a with colons := a.colons + 1 }
  else if c = '[' then
    if a.percent || a.opened then .error .authority else .ok { a with opened := true }
  else if c = ']' then
    if !a.opened || a.closed then .error .authority
    else .ok { a with closed := true, colons := 0, percent := false }
  else if c = '@' then .ok { a with colons := 0, percent := false, afterUser := true }
  else if c = '%' then .ok { a with percent := true }
  else if isAuthorityChar c then .ok a
  else .error .character

/-- Whether an authority may end as it stands. -/
def Authority.complete (a : Authority) : Bool :=
  a.opened == a.closed && a.colons ≤ 1 && !a.afterUser && !a.percent

def afterAuthority (a : Authority) : Text → Except Fault Text
  | [] => if a.complete then .ok [] else .error .authority
  | c :: rest =>
    if c = '/' || c = '?' || c = '#' then
      if a.complete then .ok (c :: rest) else .error .authority
    else
      match a.next c with
      | .ok a => afterAuthority a rest
      | .error fault => .error fault

/-- The target of a request that may name the server too. -/
def read (t : Text) : Except Fault Uri :=
  match t with
  | [] => .error .empty
  | c :: _ =>
    if maxLength < (Utf8.encode t).length then .error .length
    else if c = '/' || t = ['*'] then ofText t
    else
      match afterScheme? t with
      | .error fault => .error fault
      | .ok none =>
        match afterAuthority {} t with
        | .error fault => .error fault
        | .ok [] => .ok ⟨[], none⟩
        | .ok _ => .error .format
      | .ok (some rest) =>
        match afterAuthority {} rest with
        | .error fault => .error fault
        | .ok after =>
          if after.length = rest.length then .error .format
          else (ofText after).map fun uri =>
            if uri.written.isEmpty then { uri with written := ['/'] } else uri

end Uri
end UploadInbox
