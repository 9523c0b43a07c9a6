import UploadInbox.Json.Reader
import UploadInbox.Text.Utf8
import UploadInbox.Token.Algorithm

/-!
# Headers and claims of tokens

Both are JSON objects. The fields that a standard defines have the type it gives them and occur at
most once; of the others a header takes texts only, while claims may be anything.

Source: the fields of `Claims`, and the header and the claims that a token must have for
`validate_jwt`.
-/
namespace UploadInbox.Token

structure Claims where
  /-- The user that the token was issued to. -/
  subject : Text
  /-- The second at which the token ceases to be valid. -/
  expiry : UInt64
  issuedAt : Option UInt64
  issuer : Option Text
  /-- All other claims. -/
  custom : List (Text × Json)

/-- How deep arrays and objects may be nested. -/
def maxDepth : Nat := 127

/-- The value of a field that may be absent or null; `none` where it is of another type. -/
def optionalField {α : Type} (read : Json → Option α) : List Json → Option (Option α)
  | [] => some none
  | [.null] => some none
  | [value] => (read value).map some
  | _ => none

/-- The value of a field that must be there once. -/
def requiredField {α : Type} (read : Json → Option α) : List Json → Option α
  | [value] => read value
  | _ => none

/-- The members of an object whose names are not among the given ones, the last of each name. -/
def otherMembers (names : List Text) : List (Text × Json) → List (Text × Json)
  | [] => []
  | (name, value) :: rest =>
    if names.contains name || rest.any (·.1 = name) then otherMembers names rest
    else (name, value) :: otherMembers names rest

def Claims.ofJson? (json : Json) : Option Claims :=
  match json with
  | .object members =>
    if !json.isSound maxDepth then none
    else do
      let subject ← requiredField Json.text? (json.members "sub")
      let expiry ← requiredField Json.uint64? (json.members "exp")
      let issuedAt ← optionalField Json.uint64? (json.members "iat")
      let issuer ← optionalField Json.text? (json.members "iss")
      return ⟨subject, expiry, issuedAt, issuer,
        otherMembers ["sub", "exp", "iat", "iss"] members⟩
  | _ => none

def isTexts : Json → Bool
  | .array items => items.all fun item => item.text?.isSome
  | _ => false

/-- Whether a value names the audience of a token. -/
def isAudience (value : Json) : Bool := value.text?.isSome || isTexts value

/-- Whether a value, read as a number, leaves nothing behind that is not read. -/
def isFlat : Json → Bool
  | .array items => items.isEmpty
  | .object members => members.isEmpty
  | _ => true

def headerTexts : List Text :=
  ["typ", "cty", "jku", "kid", "x5u", "x5t", "x5t#S256", "enc", "zip", "url", "nonce"]

def headerLists : List Text := ["x5c", "crit"]

def isHeaderKey (value : Json) : Bool :=
  let has (name : Text) := (value.member? name).bind Json.text? |>.isSome
  match (value.member? "kty").bind Json.text? with
  | some kind =>
    (kind = "EC" && has "crv" && has "x" && has "y") || (kind = "RSA" && has "n" && has "e")
      || (kind = "OKP" && has "crv" && has "x") || (kind = "oct" && has "k")
  | none => false

def headerAlgorithm? (json : Json) : Option Algorithm :=
  match json with
  | .object members => do
    if !json.isSound maxDepth then none
    let name ← requiredField Json.text? (json.members "alg")
    let algorithm ← Algorithm.ofName? name
    let known := ("alg" : Text) :: "jwk" :: headerTexts ++ headerLists
    let texts := headerTexts.all fun name => (optionalField Json.text? (json.members name)).isSome
    let lists := headerLists.all fun name =>
      (optionalField (fun value => if isTexts value then some () else none)
        (json.members name)).isSome
    let key := optionalField (fun value => if isHeaderKey value then some () else none)
      (json.members "jwk")
    let others := (members.filter fun member => !known.contains member.1).all fun member =>
      member.2.text?.isSome
    if texts && lists && key.isSome && others then some algorithm else none
  | _ => none

def jsonOfBytes? (bytes : Bytes) : Option Json := (Utf8.decode? bytes).bind Json.read?

end UploadInbox.Token
