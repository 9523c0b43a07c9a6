import UploadInbox.Proofs.Forwarding.Coverage
import UploadInbox.Proofs.Route.Addressing

/-!
# Signatures that the receiver can check

A request that was made over for a routed target carries the path and the query of that target, and
its signature can be computed again from the request alone. To make it over once more for the same
target, endpoint and instant changes nothing.
-/
namespace UploadInbox.Forwarding

variable {target : Target} {endpoint : Endpoint} {credentials : Credentials} {now : Civil}
  {length : Option UInt64} {request result : Request}

/-! ## What the receiver sees -/

/-- The first value of a header as a text, the empty one where there is none. -/
def textOf (name : Text) (request : Request) : Text :=
  ((request.headers.first? name).bind Headers.visible?).getD []

/-- What a request shows of itself to whoever checks its signature. -/
def shown (request : Request) : Signing.Subject where
  method := request.method.name
  path := request.path
  query := request.query.getD []
  headers := SortedFields.joining request.headers.visible
  payloadHash := textOf "x-amz-content-sha256" request

/-- The authorization of a request as computed from nothing but the request. -/
def recomputed (credentials : Credentials) (request : Request) : Text :=
  Signing.storeAuthorization credentials (shown request)
    ((textOf "x-amz-date" request).takeWhile (· ≠ 'T')) (textOf "x-amz-date" request)

/-- The names before the colons of the lines that are signed. -/
def lineNames (request : Request) : List Text :=
  (Text.fields '\n' (Signing.headerBlock (Signing.signedFields (shown request).headers))).map
    (·.takeWhile (· ≠ ':'))

theorem textOf_of_values {name value : Text}
    (values : request.headers.values name = [Utf8.encode value])
    (visible : ∀ c ∈ value, Headers.isVisible c = true) : textOf name request = value := by
  rw [textOf, Headers.first?, values, List.head?_cons, Option.bind_some,
    Headers.visible?_encode visible, Option.getD_some]

namespace Resigned

theorem textOf_date (resigned : Resigned target endpoint credentials now length request result) :
    textOf "x-amz-date" result = now.timestamp :=
  textOf_of_values resigned.values_date fun _ => isVisible_of_mem_timestamp

theorem textOf_digest (resigned : Resigned target endpoint credentials now length request result) :
    textOf "x-amz-content-sha256" result = payloadHash request :=
  textOf_of_values resigned.values_digest fun _ => isVisible_of_mem_payloadHash

/-- The digest of the body does not change any more. -/
theorem payloadHash_eq (resigned : Resigned target endpoint credentials now length request result) :
    payloadHash result = payloadHash request := by
  rw [payloadHash, Headers.first?, resigned.values_digest, List.head?_cons, Option.bind_some,
    Headers.visible?_encode fun _ => isVisible_of_mem_payloadHash, Option.getD_some]

theorem recomputed_eq (resigned : Resigned target endpoint credentials now length request result)
    (path : result.path = target.path) (query : result.query.getD [] = target.query.getD []) :
    recomputed credentials result = signature credentials now target result := by
  have same : shown result = subject target result := by
    rw [shown, subject, path, query, resigned.textOf_digest, resigned.payloadHash_eq]
  rw [recomputed, same, resigned.textOf_date, Civil.takeWhile_timestamp, signature]

/-- The lines that are signed have the names that the signature covers. -/
theorem lineNames_eq (resigned : Resigned target endpoint credentials now length request result) :
    lineNames result = coveredNames target result := by
  have named : ∀ field ∈ Signing.signedFields (subject target result).headers,
      Headers.isName field.1 = true :=
    fun _ => isName_of_mem_signedFields
  exact Signing.names_headerBlock named resigned.signedFields_ne_nil

/-- The host is covered exactly when it is a text that headers can show. -/
theorem host_covered_iff
    (resigned : Resigned target endpoint credentials now length request result) :
    ("host" : Text) ∈ coveredNames target result ↔
      ∀ c ∈ endpoint.authority, Headers.isVisible c = true := by
  have signed : Signing.isSigned "host" = true := by decide
  rw [mem_coveredNames_iff, resigned.values_host]
  simp only [signed, true_and, List.mem_singleton, exists_eq_left]
  exact Headers.visible?_encode_isSome_iff

/-! ## Once more -/

theorem contentLength_eq
    (resigned : Resigned target endpoint credentials now length request result) :
    contentLength result = .ok length := by
  have values := resigned.values_contentLength
  cases length with
  | none =>
    have measured := resigned.measured
    have absent := Headers.first?_eq_none_iff.mpr (has_contentLength_of_none measured)
    rw [contentLength, absent] at measured
    rw [contentLength, Headers.first?, values, resigned.method]
    exact measured
  | some n =>
    have visible := Headers.visible?_encode (t := Decimal.ofNat n.toNat)
      fun _ => isVisible_of_mem_ofNat
    rw [contentLength, Headers.first?, values]
    simp only [Option.toList_some, List.map_cons, List.map_nil, List.head?_cons, visible,
      Option.bind_some, Decimal.trim_ofNat, Decimal.readUInt64?_ofNat]

/-- A request that was made over is what it would be made into. -/
theorem again (resigned : Resigned target endpoint credentials now length request result) :
    Resigned target endpoint credentials now length result result := by
  refine ⟨resigned.contentLength_eq, resigned.read, resigned.host, resigned.key, resigned.region,
    rfl, resigned.wire, ?_⟩
  rw [resigned.payloadHash_eq]
  exact resigned.headers.again

end Resigned

/-! ## The request as a whole -/

/-- A request that its receiver can check, and that needs no more changes. -/
structure Verifiable (target : Target) (endpoint : Endpoint) (credentials : Credentials)
    (now : Civil) (request : Request) : Prop where
  path : request.path = target.path
  query : request.query = Query.nonEmpty? target.query
  authorization : request.headers.values "authorization" =
    [Utf8.encode (recomputed credentials request)]
  /-- The list of names in the authorization is that of the lines that are signed. -/
  listed : Signing.listedNames? (recomputed credentials request) = some (lineNames request)
  ascending : (lineNames request).Pairwise (· < ·)
  digest : ("x-amz-content-sha256" : Text) ∈ lineNames request
  date : ("x-amz-date" : Text) ∈ lineNames request
  host : ("host" : Text) ∈ lineNames request ↔
    ∀ c ∈ endpoint.authority, Headers.isVisible c = true
  again : (resign target endpoint credentials now).outcome request = (.ok (), request)

/-- Whatever is made over for a routed target can be checked by its receiver; the host is among what
is signed exactly when all of its characters are visible. -/
theorem verifiable_of_resign {requested : Uri} {method : Method} {bucket user : Text}
    (parsed : Uri.IsRead requested) (bare : '?' ∉ bucket) (whole : '#' ∉ bucket)
    (routed : Route.target method requested.path requested.query bucket user = .ok target)
    (resigned : (resign target endpoint credentials now).outcome request = (.ok (), result)) :
    Verifiable target endpoint credentials now result := by
  obtain ⟨length, resigned⟩ := resign_eq_ok_iff_resigned.mp resigned
  have addressed : Uri.Addressed target.path target.query :=
    (Route.routed_of_target routed).addressed parsed.addressed bare whole
  obtain ⟨filled, uri⟩ := Uri.read_target_eq_ok addressed resigned.read
  have path : result.path = target.path := by
    simp [Request.path, uri, Uri.path, filled]
  have query : result.query = Query.nonEmpty? target.query := by
    rw [Request.query, uri]
  have query_text : result.query.getD [] = target.query.getD [] := by
    rw [query, Query.getD_nonEmpty?]
  have signature_eq := resigned.recomputed_eq path query_text
  have names := resigned.lineNames_eq
  have ascending : (coveredNames target result).Pairwise (· < ·) :=
    List.pairwise_map.mpr (ascending_signedFields target result)
  exact {
    path, query
    authorization := by rw [signature_eq, resigned.values_authorization]
    listed := by rw [signature_eq, names, resigned.listedNames?_signature]
    ascending := by rw [names]; exact ascending
    digest := by rw [names]; exact resigned.digest_signed
    date := by rw [names]; exact resigned.date_signed
    host := by rw [names]; exact resigned.host_covered_iff
    again := resign_eq_ok_iff_resigned.mpr ⟨length, resigned.again⟩ }

/-- An upload of alice's, routed, made over and checked. -/
theorem verifiable_forwarded :
    Route.target .put "/alice/data.bam" none "inbox" "alice" = .ok destination ∧
    (resign destination ⟨"store", 9000, false⟩ keys morning).outcome (upload (Utf8.encode "Ada")) =
      (.ok (), forwarded "store" (Utf8.encode "Ada")) ∧
    Verifiable destination ⟨"store", 9000, false⟩ keys morning
      (forwarded "store" (Utf8.encode "Ada")) := by
  have parsed : Uri.IsRead ⟨"/alice/data.bam", none⟩ := ⟨"/alice/data.bam", .inl (by decide)⟩
  have routed : Route.target .put "/alice/data.bam" none "inbox" "alice" = .ok destination := by
    decide
  have success := resign_upload (by decide : ("store" : Text).all Headers.isSendable = true)
    (Utf8.encode "Ada")
  exact ⟨routed, success, verifiable_of_resign parsed (by decide) (by decide) routed success⟩

/-- A host beyond ASCII is sent and not signed. -/
theorem host_not_mem_lineNames :
    Endpoint.ofUrl "http://spåre:9000" = .ok ⟨"spåre", 9000, false⟩ ∧
    Route.target .put "/alice/data.bam" none "inbox" "alice" = .ok destination ∧
    (resign destination ⟨"spåre", 9000, false⟩ keys morning).outcome (upload (Utf8.encode "Ada")) =
      (.ok (), forwarded "spåre" (Utf8.encode "Ada")) ∧
    (forwarded "spåre" (Utf8.encode "Ada")).headers.values "host" = [Utf8.encode "spåre:9000"] ∧
    ("host" : Text) ∉ lineNames (forwarded "spåre" (Utf8.encode "Ada")) := by
  have endpoint : Endpoint.ofUrl "http://spåre:9000" = .ok ⟨"spåre", 9000, false⟩ := by decide
  have routed : Route.target .put "/alice/data.bam" none "inbox" "alice" = .ok destination := by
    decide
  have sendable : ("spåre" : Text).all Headers.isSendable = true := by decide
  have resigned := resigned_forwarded sendable (Utf8.encode "Ada")
  refine ⟨endpoint, routed, resign_upload sendable _, resigned.values_host, ?_⟩
  rw [resigned.lineNames_eq, resigned.host_covered_iff, ← List.all_eq_true]
  decide

end UploadInbox.Forwarding
