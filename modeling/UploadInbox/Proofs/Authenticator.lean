import UploadInbox.Authenticator
import UploadInbox.Proofs.Token.Extraction

/-!
# Whom a token lets in

Where tokens are demanded, a caller acts in a namespace only with a token that stands in the
request, that the verifier accepts and that was issued to the user of that name.
-/
namespace UploadInbox.Authenticator

/-- A request holds a token that a verifier accepts at an instant as one of a user. -/
def Presents (verifier : Token.Verifier) (now : UInt64) (request : Request) (user : Text) : Prop :=
  ∃ token claims, (∃ field ∈ request.headers.fields, Token.HeldIn token field) ∧
    verifier.verify now token = .ok claims ∧ claims.subject = user

/-- Only the user of the namespace is let in. -/
theorem presents_of_ofVerifier {verifier : Token.Verifier} {now : UInt64} {request : Request}
    {user : Text} (named : Namespace.user request.path = .ok user)
    (authentic : ofVerifier verifier now request = .ok ()) :
    Presents verifier now request user := by
  rw [ofVerifier, named] at authentic
  cases extracted : Token.extract? request.headers.lastVisible with
  | none =>
    rw [extracted] at authentic
    cases authentic
  | some token =>
    cases verified : verifier.verify now token with
    | error fault =>
      simp only [extracted, verified] at authentic
      cases authentic
    | ok claims =>
      simp only [extracted, verified] at authentic
      split at authentic
      next issued =>
        exact ⟨token, claims, Token.exists_heldIn_of_extract? extracted, verified, issued⟩
      next => cases authentic

end UploadInbox.Authenticator
