import UploadInbox.Error
import UploadInbox.Text.Decimal

/-!
# Endpoints

The address of the store: a host, a number and whether the connection is encrypted. What follows
the host in the address is ignored, and a missing number is that of the scheme.

Source: `parse` (`ofUrl`), `authority` and `base_url` of `BackendEndpoint`.
-/
namespace UploadInbox

structure Endpoint where
  host : Text
  port : UInt16
  encrypted : Bool
  deriving DecidableEq, Repr

namespace Endpoint

def defaultPort (encrypted : Bool) : UInt16 := if encrypted then 443 else 80

/-- What follows the scheme of an address, and whether the scheme is the encrypted one. -/
def afterScheme? (url : Text) : Option (Bool × Text) :=
  match Text.dropPrefix? "https://" url with
  | some rest => some (true, rest)
  | none => (Text.dropPrefix? "http://" url).map (false, ·)

def hostAndPort (encrypted : Bool) (authority : Text) : Option (Text × UInt16) :=
  match Text.cutLast? ':' authority with
  | some (host, number) => (Decimal.readUInt16? number).map (host, ·)
  | none => some (authority, defaultPort encrypted)

def ofUrl (url : Text) : Except Error Endpoint :=
  match afterScheme? url with
  | none =>
    .error (.config ("backend url '" ++ url ++ "' must start with http:// or https://"))
  | some (encrypted, rest) =>
    match hostAndPort encrypted (rest.takeWhile (· ≠ '/')) with
    | none => .error (.config ("backend url '" ++ url ++ "' has an invalid port"))
    | some (host, port) =>
      if host.isEmpty then .error (.config ("backend url '" ++ url ++ "' has no host"))
      else .ok ⟨host, port, encrypted⟩

/-- The host, with the number unless it is the one of the scheme. -/
def authority (e : Endpoint) : Text :=
  if e.port = defaultPort e.encrypted then e.host
  else e.host ++ ':' :: Decimal.ofNat e.port.toNat

def scheme (e : Endpoint) : Text := if e.encrypted then "https" else "http"

/-- Scheme and authority, without a path. -/
def baseUrl (e : Endpoint) : Text := e.scheme ++ "://" ++ e.authority

end Endpoint
end UploadInbox
