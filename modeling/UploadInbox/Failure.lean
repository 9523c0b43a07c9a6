import UploadInbox.Text.Basic

/-!
# Failures of passing a request on

Why the exchange with the caller or with the store broke off, and with what status the caller is
answered. What goes wrong on the way to the store is the service's own fault to the caller; a caller
that is gone gets no answer.

Source: `failure_status` (`answerStatus`) and `fail_to_connect` (`withoutRetry`).
-/
namespace UploadInbox

inductive FailureKind where
  | connectTimedOut | connectRefused | connectNoRoute | connectFailed
  | handshakeFailed | handshakeTimedOut | invalidCertificate
  | invalidHeader | protocolOne | protocolTwo
  | readFailed | writeFailed | readTimedOut | writeTimedOut | connectionClosed
  /-- An answer with a status of its own. -/
  | status (code : Nat)
  | internal | unknown
  /-- Something that only its name says. -/
  | named (name : Text)
  deriving DecidableEq, Repr

/-- On which side it went wrong. -/
inductive FailureSource where
  | store | caller | service | unset
  deriving DecidableEq, Repr

namespace FailureKind

def name : FailureKind → Text
  | connectTimedOut => "ConnectTimedout"
  | connectRefused => "ConnectRefused"
  | connectNoRoute => "ConnectNoRoute"
  | connectFailed => "ConnectError"
  | handshakeFailed => "TLSHandshakeFailure"
  | handshakeTimedOut => "TLSHandshakeTimedout"
  | invalidCertificate => "InvalidCert"
  | invalidHeader => "InvalidHTTPHeader"
  | protocolOne => "H1Error"
  | protocolTwo => "H2Error"
  | readFailed => "ReadError"
  | writeFailed => "WriteError"
  | readTimedOut => "ReadTimedout"
  | writeTimedOut => "WriteTimedout"
  | connectionClosed => "ConnectionClosed"
  | status _ => "HTTPStatus"
  | internal => "InternalError"
  | unknown => "UnknownError"
  | named name => name

/-- The kinds that are known by name alone. -/
def all : List FailureKind := [
  connectTimedOut, connectRefused, connectNoRoute, connectFailed, handshakeFailed,
  handshakeTimedOut, invalidCertificate, invalidHeader, protocolOne, protocolTwo, readFailed,
  writeFailed, readTimedOut, writeTimedOut, connectionClosed, internal, unknown]

/-- The kind of a name, and of a status where the name says that there is one. -/
def ofName? (code : Nat) (t : Text) : Option FailureKind :=
  if t = (status code).name then some (status code) else all.find? fun kind => kind.name = t

end FailureKind

def FailureSource.name : FailureSource → Text
  | store => "Upstream"
  | caller => "Downstream"
  | service => "Internal"
  | unset => []

structure Failure where
  kind : FailureKind
  source : FailureSource
  /-- Whether the request may be tried once more. -/
  retry : Bool
  deriving DecidableEq, Repr

namespace Failure

def shown (failure : Failure) : Text := failure.source.name ++ ' ' :: failure.kind.name

/-- The status that the caller is answered with; zero is no answer. -/
def answerStatus (failure : Failure) : Nat :=
  match failure.kind, failure.source with
  | .status code, _ => code
  | .writeFailed, .caller | .readFailed, .caller | .connectionClosed, .caller => 0
  | _, .caller => 400
  | _, .store | _, .service | _, .unset => 500

/-- A failure to connect to the store, after which nothing is tried again. -/
def withoutRetry (failure : Failure) : Failure := { failure with retry := false }

end Failure
end UploadInbox
