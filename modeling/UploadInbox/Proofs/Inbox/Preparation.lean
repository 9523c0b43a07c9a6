import UploadInbox.Proofs.Forwarding.Resigned
import UploadInbox.Proofs.Inbox.Announcement
import UploadInbox.Proofs.Route.Addressing

/-!
# Admitted requests can be sent

A request that was admitted can be made over for the store. Its length was known when it was
admitted; its target is of characters that may stand in a path and a query, as the target that was
read was; and what the settings bring in is plain. Only a target that has become too long, for the
name of the bucket or of the user in it, is left.
-/
namespace UploadInbox

namespace Forwarding

open Headers (isSendable)

variable {target : Target} {endpoint : Endpoint} {credentials : Credentials} {now : Civil}
  {request : Request}

theorem all_isSendable_of_isPlain {t : Text} (plain : ∀ c ∈ t, isPlain c = true) :
    t.all isSendable = true := by
  rw [List.all_eq_true]
  intro c member
  have bounds := bounds_of_isPlain (plain c member)
  simp only [isSendable, Bool.or_eq_true, Bool.and_eq_true, decide_eq_true_eq, bne_iff_ne]
  omega

theorem all_isSendable_authority (plain : ∀ c ∈ endpoint.host, isPlain c = true) :
    endpoint.authority.all isSendable = true := by
  have host := all_isSendable_of_isPlain plain
  have number : (Decimal.ofNat endpoint.port.toNat).all isSendable = true :=
    all_isSendable_of_visible fun _ => isVisible_of_mem_ofNat
  have colon : isSendable ':' = true := by decide
  unfold Endpoint.authority
  split
  · exact host
  · rw [List.all_append, List.all_cons, host, number, colon]
    rfl

/-- A target that does not read stops a request before anything is set in it. -/
theorem resign_of_read_eq_error {length : Option UInt64} {fault : Uri.Fault}
    (measured : contentLength request = .ok length)
    (unread : Uri.read target.pathAndQuery = .error fault) :
    (resign target endpoint credentials now).outcome request =
      (.error (.backendForward ("Invalid upstream URI: " ++ fault.message)), strip request) := by
  simp only [resign, address, Attempt.outcome_bind, Attempt.outcome_get, Attempt.outcome_liftM,
    Attempt.outcome_modify, Attempt.outcome_throw, measured, unread]

end Forwarding

namespace Inbox

/-- Settings of plain characters. -/
structure IsPlain (inbox : Inbox) : Prop where
  bucket : ∀ c ∈ inbox.bucket, isPlain c = true
  host : ∀ c ∈ inbox.endpoint.host, isPlain c = true
  accessKey : ∀ c ∈ inbox.credentials.accessKey, isPlain c = true
  region : ∀ c ∈ inbox.credentials.region, isPlain c = true

variable {inbox : Inbox} {request : Request} {user : Text} {target : Target}

/-- The target of an admissible request reads as it stands, unless it is too long. -/
theorem Admissible.read_target (admissible : Admissible inbox request user target)
    (parsed : Uri.IsRead request.uri) (plain : ∀ c ∈ inbox.bucket, isPlain c = true) :
    Uri.read target.pathAndQuery =
      if Uri.maxLength < (Utf8.encode target.pathAndQuery).length then .error .length
      else .ok ⟨target.path, Query.nonEmpty? target.query⟩ := by
  have routed := Route.routed_of_target admissible.placed
  have addressed := routed.addressed parsed.addressed (not_mem_of_class plain (by decide))
    (not_mem_of_class plain (by decide))
  exact Uri.read_target_of_legal addressed (routed.legal parsed.legal plain)
    (routed.filled (Namespace.ne_nil_of_user admissible.named))

/-- An admitted request is made over for the store, unless its target has become too long: then it
is stopped there. -/
theorem prepared_of_admitted {context : Context} (parsed : Uri.IsRead request.uri)
    (plain : inbox.IsPlain) (admitted : (inbox.examine request context).result = .ok ())
    (now : Civil) :
    ∃ target, (inbox.examine request context).context.target = some target ∧
      if (Utf8.encode target.pathAndQuery).length ≤ 65534 then
        ∃ sent, (inbox.prepare (inbox.examine request context).context now).outcome request =
          (.ok (), sent)
      else
        (inbox.prepare (inbox.examine request context).context now).outcome request =
          (.error (.backendForward "Invalid upstream URI: uri too long"),
            Forwarding.strip request) := by
  obtain ⟨user, target, admissible, known⟩ := known_of_admitted admitted
  obtain ⟨length, measured⟩ := admissible.measured
  have read := admissible.read_target parsed plain.bucket
  rw [show Uri.maxLength = 65534 from rfl] at read
  -- what was found out when the request was admitted is all that is used of the context
  have resigned : inbox.prepare (inbox.examine request context).context now =
      Forwarding.resign target inbox.endpoint inbox.credentials now := by
    rw [known]
    rfl
  refine ⟨target, by rw [known]; rfl, ?_⟩
  rw [resigned]
  split
  next short =>
    rw [if_neg (Nat.not_lt.mpr short)] at read
    exact ⟨_, Forwarding.resign_eq_ok_iff.mpr ⟨length, _, measured, read,
      Forwarding.all_isSendable_authority plain.host,
      Forwarding.all_isSendable_of_isPlain plain.accessKey,
      Forwarding.all_isSendable_of_isPlain plain.region, rfl⟩⟩
  next long =>
    rw [if_pos (Nat.not_le.mp long)] at read
    exact Forwarding.resign_of_read_eq_error measured read

theorem prepared_storing :
    ∃ sent, ((openTo "inbox").prepare ((openTo "inbox").examine (storing "/al%20ice/data.bam")
      (.initial "1")).context Forwarding.morning).outcome (storing "/al%20ice/data.bam") =
        (.ok (), sent) := by
  have parsed : Uri.IsRead (storing "/al%20ice/data.bam").uri :=
    ⟨"/al%20ice/data.bam", .inl (by decide)⟩
  have plain : (openTo "inbox").IsPlain := {
    bucket := List.all_eq_true.mp (by decide)
    host := List.all_eq_true.mp (by decide)
    accessKey := List.all_eq_true.mp (by decide)
    region := List.all_eq_true.mp (by decide) }
  obtain ⟨target, placed, prepared⟩ := prepared_of_admitted parsed plain rfl _
  cases (show some ⟨"/inbox/al%20ice/data.bam", none⟩ = some target from placed)
  rwa [if_pos (by decide)] at prepared

end Inbox
end UploadInbox
