import UploadInbox.Crypto.Base64
import UploadInbox.Crypto.Der
import UploadInbox.Error
import UploadInbox.Files

/-!
# Certificates

A file of certificates holds armoured blocks, of which those with another label are passed over. A
bundle is such a file to whose certificates those of a server are traced back.

Source: `load_ca_bundle` (`bundle`), and what `new` of `S3MetadataClient` does with a bundle
(`firstOfBundle`).
-/
namespace UploadInbox.Certificate

def lines (file : Bytes) : List Text :=
  (Text.fields '\n' (file.map fun b => Char.ofNat b.toNat)).map
    (Text.trimEnd fun c => c.toNat ≤ 0x20)

/-- The label of the line that opens a block. -/
def label? (line : Text) : Option Text :=
  match Text.dropPrefix? "-----BEGIN " line with
  | none => none
  | some rest =>
    if 5 ≤ rest.length && rest.drop (rest.length - 5) = "-----" then
      some (rest.take (rest.length - 5))
    else none

/-- The lines of a block up to the one that closes it, and what follows it. -/
def body? (label : Text) : List Text → Option (List Text × List Text)
  | [] => none
  | line :: rest =>
    if line = "-----END " ++ label ++ "-----" then some ([], rest)
    else if Text.startsWith "-----" line then none
    else (body? label rest).map fun (body, rest) => (line :: body, rest)

/-- The lines of data of a block: those after its header section, which an empty line ends. -/
def dataLines (body : List Text) : List Text :=
  if body.any (·.contains ':') then (body.dropWhile (!·.isEmpty)).drop 1 else body

def content? (body : List Text) : Option Bytes :=
  Base64.decodePadded? ((dataLines body).flatten.filter fun c => c ≠ ' ' && c ≠ '\t')

/-- Whether values are the main part of a certificate: number, algorithm, issuer, validity, subject
and key, after an optional version. -/
def isSubjectPart : List Der.Value → Bool
  | .other :: .integer _ :: rest | .integer _ :: rest =>
    match rest with
    | .sequence _ :: .sequence _ :: .sequence validity :: .sequence _ :: .sequence _ :: rest =>
      validity.length = 2 && rest.all fun
        | .other => true
        | _ => false
    | _ => false
  | _ => false

def isWellFormed (octets : Bytes) : Bool :=
  match Der.ofBytes? octets with
  | some (.sequence [.sequence part, .sequence _, .bits _] :: _) => isSubjectPart part
  | _ => false

inductive Next where
  | certificate (octets : Bytes) (rest : List Text)
  | finished
  | malformed

def next : Nat → List Text → Next
  | 0, _ => .finished
  | _, [] => .finished
  | fuel + 1, line :: rest =>
    match label? line with
    | none => next fuel rest
    | some label =>
      match body? label rest with
      | none => .malformed
      | some (body, rest) =>
        match content? body with
        | none => .malformed
        | some octets =>
          if label ≠ "CERTIFICATE" ∧ label ≠ "X509 CERTIFICATE" then next fuel rest
          else if isWellFormed octets then .certificate octets rest
          else .malformed

/-- All certificates among lines, if none is malformed. -/
def allAmong? : Nat → List Text → Option (List Bytes)
  | 0, _ => some []
  | fuel + 1, lines =>
    match next lines.length lines with
    | .certificate octets rest => (allAmong? fuel rest).map (octets :: ·)
    | .finished => some []
    | .malformed => none

def first? (file : Bytes) : Option Bytes :=
  match next (lines file).length (lines file) with
  | .certificate octets _ => some octets
  | .finished | .malformed => none

def all? (file : Bytes) : Option (List Bytes) := allAmong? (lines file).length (lines file)

def readBundle (files : Files) (path : Text) : Except Error Bytes :=
  match files.read path with
  | .ok file => .ok file
  | .error reason =>
    .error (.config ("Failed to read CA bundle '" ++ path ++ "': " ++ reason))

def invalidBundle (path reason : Text) : Error :=
  .config ("Invalid CA bundle '" ++ path ++ "': " ++ reason)

def firstOfBundle (files : Files) (path : Text) : Except Error Bytes :=
  match readBundle files path with
  | .error e => .error e
  | .ok file =>
    match first? file with
    | some octets => .ok octets
    | none => .error (invalidBundle path "builder error")

/-- All certificates of a bundle, of which there is at least one. -/
def bundle (files : Files) (path : Text) : Except Error (List Bytes) :=
  match readBundle files path with
  | .error e => .error e
  | .ok file =>
    match all? file with
    | none => .error (invalidBundle path "not a certificate")
    | some [] => .error (.config ("CA bundle '" ++ path ++ "' contains no certificates"))
    | some octets => .ok octets

end UploadInbox.Certificate
