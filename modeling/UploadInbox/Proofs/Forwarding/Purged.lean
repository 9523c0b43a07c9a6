import UploadInbox.Proofs.Forwarding.Resigned
import UploadInbox.Proofs.Http.Uri

/-!
# What is left of the caller's request

A request that was made over keeps its method and the values of every name that is not replaced.
Of what the caller sent under a replaced name only the first length and the first digest go on, the
one as a number and the other if it is a text; the names of the edge are gone. The octets of the
target are sent as they stand, unless a fragment is cut off them or they do not begin with a path.
-/
namespace UploadInbox.Forwarding

open Headers (visible?)

variable {target : Target} {endpoint : Endpoint} {credentials : Credentials} {now : Civil}
  {length : Option UInt64} {request result : Request}

/-- How a request that goes to the store stands to the caller's. -/
structure Purged (target : Target) (endpoint : Endpoint) (credentials : Credentials) (now : Civil)
    (request result : Request) : Prop where
  method : result.method = request.method
  /-- The line is that of the target, whatever the caller's was. -/
  line : ∃ uri, Uri.read target.pathAndQuery = .ok uri ∧ result.uri = uri ∧
    result.wire = Utf8.encode uri.wire
  edge : ∀ name ∈ edgeHeaders, result.headers.values name = []
  authorization : result.headers.values "authorization" =
    [Utf8.encode (signature credentials now target result)]
  host : result.headers.values "host" = [Utf8.encode endpoint.authority]
  date : result.headers.values "x-amz-date" = [Utf8.encode now.timestamp]
  digest : ∀ value, request.headers.first? "x-amz-content-sha256" = some value →
    (visible? value).isSome = true → result.headers.values "x-amz-content-sha256" = [value]
  /-- Where no digest is declared, or one that is no text, the body goes unsigned. -/
  undeclared : (∀ value, request.headers.first? "x-amz-content-sha256" = some value →
      visible? value = none) →
    result.headers.values "x-amz-content-sha256" = [Utf8.encode unsignedPayload]
  length : ∀ value, request.headers.first? "content-length" = some value →
    ∃ written n, visible? value = some written ∧
      Decimal.readUInt64? (Blank.trim written) = some n ∧
      result.headers.values "content-length" = [Utf8.encode (Decimal.ofNat n.toNat)]
  /-- Only a request that uploads nothing may leave out its length. -/
  unmeasured : request.headers.first? "content-length" = none →
    request.method.isUpload = false ∧ result.headers.values "content-length" = []
  others : ∀ name ∉ replacedNames, result.headers.values name = request.headers.values name

/-! ## The declared digest and length -/

theorem payloadHash_of_first? {value : Bytes} {written : Text}
    (declared : request.headers.first? "x-amz-content-sha256" = some value)
    (text : visible? value = some written) : payloadHash request = written := by
  rw [payloadHash, declared, Option.bind_some, text, Option.getD_some]

theorem payloadHash_of_undeclared
    (undeclared : ∀ value, request.headers.first? "x-amz-content-sha256" = some value →
      visible? value = none) : payloadHash request = unsignedPayload := by
  have none_read : (request.headers.first? "x-amz-content-sha256").bind visible? = none :=
    Option.bind_eq_none_iff.mpr undeclared
  rw [payloadHash, none_read, Option.getD_none]

theorem written_of_contentLength {value : Bytes} (measured : contentLength request = .ok length)
    (declared : request.headers.first? "content-length" = some value) :
    ∃ written n, visible? value = some written ∧
      Decimal.readUInt64? (Blank.trim written) = some n ∧ length = some n := by
  rw [contentLength, declared] at measured
  simp only at measured
  split at measured
  next n read =>
    obtain ⟨written, text, number⟩ := Option.bind_eq_some_iff.mp read
    exact ⟨written, n, text, number, (Except.ok.inj measured).symm⟩
  next => cases measured

theorem isUpload_of_contentLength (measured : contentLength request = .ok length)
    (absent : request.headers.first? "content-length" = none) :
    request.method.isUpload = false ∧ length = none := by
  rw [contentLength, absent] at measured
  simp only at measured
  split at measured
  next => cases measured
  next other => exact ⟨Bool.eq_false_iff.mpr other, (Except.ok.inj measured).symm⟩

/-! ## The request as a whole -/

theorem Resigned.purged
    (resigned : Resigned target endpoint credentials now length request result) :
    Purged target endpoint credentials now request result where
  method := resigned.method
  line := ⟨result.uri, resigned.read, rfl, resigned.wire⟩
  edge := fun _ => resigned.values_edge
  authorization := resigned.values_authorization
  host := resigned.values_host
  date := resigned.values_date
  digest := by
    intro value declared shown
    obtain ⟨written, text⟩ := Option.isSome_iff_exists.mp shown
    rw [resigned.values_digest, payloadHash_of_first? declared text,
      (Headers.visible?_eq_some.mp text).1]
  undeclared := by
    intro undeclared
    rw [resigned.values_digest, payloadHash_of_undeclared undeclared]
  length := by
    intro value declared
    obtain ⟨written, n, text, number, rfl⟩ := written_of_contentLength resigned.measured declared
    exact ⟨written, n, text, number, resigned.values_contentLength⟩
  unmeasured := by
    intro absent
    obtain ⟨other, rfl⟩ := isUpload_of_contentLength resigned.measured absent
    exact ⟨other, resigned.values_contentLength⟩
  others := fun _ => resigned.headers.values_of_not_mem

/-- A request that was made over is purged, and the octets that are sent for its target are those of
the target exactly when that begins with a path and has no fragment. -/
theorem purged_of_resign
    (resigned : (resign target endpoint credentials now).outcome request = (.ok (), result)) :
    Purged target endpoint credentials now request result ∧
    (result.wire = Utf8.encode target.pathAndQuery ↔
      Uri.IsOrigin target.pathAndQuery ∧ '#' ∉ target.pathAndQuery) := by
  obtain ⟨length, resigned⟩ := resign_eq_ok_iff_resigned.mp resigned
  refine ⟨resigned.purged, ?_⟩
  rw [← Uri.wire_eq_iff_of_read resigned.read, resigned.wire]
  exact ⟨Utf8.encode_injective, congrArg Utf8.encode⟩

/-! ## Two uploads -/

/-- An upload with more than one value for most of what is replaced. -/
def repeatedHeaders : Request where
  method := .put
  uri := ⟨"/alice/data.bam", some "x=1"⟩
  wire := Utf8.encode "/alice/data.bam?x=1"
  headers := {
    fields := [("host", Utf8.encode "inbox"), ("x-amz-date", Utf8.encode "20240101T000000Z"),
      ("x-amz-meta-name", Utf8.encode "Ada"), ("host", Utf8.encode "store:1"),
      ("content-length", Utf8.encode " +05"), ("content-length", Utf8.encode "7"),
      ("authorization", Utf8.encode "Bearer token"), ("x-amz-content-sha256", [0xFF]),
      ("x-amz-content-sha256", Utf8.encode "abc"), ("authorization", Utf8.encode "Basic token"),
      ("x-amz-security-token", Utf8.encode "token"), ("x-real-ip", Utf8.encode "10.0.0.1"),
      ("x-amz-date", Utf8.encode "20240102T000000Z"), ("x-amz-meta-name", Utf8.encode "é")]
    named := by decide }

theorem purged_repeatedHeaders :
    ∃ result,
      (resign destination ⟨"store", 9000, false⟩ keys morning).outcome repeatedHeaders =
        (.ok (), result) ∧
      Purged destination ⟨"store", 9000, false⟩ keys morning repeatedHeaders result ∧
      result.wire = Utf8.encode "/inbox/alice/data.bam" := by
  have resigned :
      Resigned destination ⟨"store", 9000, false⟩ keys morning (some 5) repeatedHeaders _ :=
    resigned_signed (by rfl) (by rfl) (by decide) (by decide) (by decide)
  have success := resign_eq_ok_iff_resigned.mpr ⟨some 5, resigned⟩
  obtain ⟨purged, line⟩ := purged_of_resign success
  exact ⟨_, success, purged, line.mpr ⟨.inl ⟨_, rfl⟩, by decide⟩⟩

/-- A bucket with the mark of a fragment in its name is cut short where the request is sent. -/
theorem wire_fragment :
    Route.target .put "/alice/data.bam" none "in#box" "alice" =
      .ok ⟨"/in#box/alice/data.bam", none⟩ ∧
    ∃ result, (resign ⟨"/in#box/alice/data.bam", none⟩ ⟨"store", 9000, false⟩ keys morning).outcome
        (upload (Utf8.encode "Ada")) = (.ok (), result) ∧
      result.wire = Utf8.encode "/in" ∧
      result.wire ≠ Utf8.encode (Target.pathAndQuery ⟨"/in#box/alice/data.bam", none⟩) := by
  have read : Uri.read (Target.pathAndQuery ⟨"/in#box/alice/data.bam", none⟩) =
      .ok ⟨"/in", none⟩ := by rfl
  have resigned : Resigned ⟨"/in#box/alice/data.bam", none⟩ ⟨"store", 9000, false⟩ keys morning
      (some 5) (upload (Utf8.encode "Ada")) _ :=
    resigned_signed (by rfl) read (by decide) (by decide) (by decide)
  have success := resign_eq_ok_iff_resigned.mpr ⟨some 5, resigned⟩
  have sent := resigned.wire
  refine ⟨by decide, _, success, sent, fun same => ?_⟩
  rw [sent] at same
  exact absurd (Utf8.encode_injective same) (by decide)

end UploadInbox.Forwarding
