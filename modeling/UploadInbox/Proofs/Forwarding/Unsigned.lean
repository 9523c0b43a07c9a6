import UploadInbox.Forwarding
import UploadInbox.Proofs.Http.Headers
import UploadInbox.Proofs.Time.Civil

/-!
# Requests before they are signed

Step by step a request gets the line of its target and the inbox's own fields. Only its length, its
target and the host of the store can stop it; in the end the fields that nobody replaces are there
in their order, and the own fields behind them.
-/
namespace UploadInbox.Forwarding

open Headers (isVisible isSendable)

def replacedNames : List Text :=
  "x-amz-date" :: "x-amz-content-sha256" :: "content-length" :: "host"
    :: (edgeHeaders ++ [("authorization" : Text)])

def octets (field : Text × Text) : Text × Bytes := (field.1, Utf8.encode field.2)

/-- The fields of its own that a request to the store carries, but for the authorization. -/
def ownFields (endpoint : Endpoint) (timestamp : Text) (length : Option UInt64) (payload : Text) :
    List (Text × Text) :=
  [(("host" : Text), endpoint.authority)]
    ++ length.toList.map (fun n => (("content-length" : Text), Decimal.ofNat n.toNat))
    ++ [(("x-amz-content-sha256" : Text), payload), (("x-amz-date" : Text), timestamp)]

def ownNames : List Text := ["host", "content-length", "x-amz-content-sha256", "x-amz-date"]

/-! ## Steps -/

theorem isName_host : Headers.isName "host" = true := by decide

theorem isName_contentLength : Headers.isName "content-length" = true := by decide

theorem isName_digest : Headers.isName "x-amz-content-sha256" = true := by decide

theorem isName_date : Headers.isName "x-amz-date" = true := by decide

theorem isName_authorization : Headers.isName "authorization" = true := by decide

/-- Setting a header leaves the line of a request as it is. -/
theorem line_withHeader (name : Text) (value : Bytes) (request : Request)
    (valid : Headers.isName name = true) :
    (request.withHeader name value valid).method = request.method ∧
      (request.withHeader name value valid).uri = request.uri ∧
      (request.withHeader name value valid).wire = request.wire :=
  ⟨rfl, rfl, rfl⟩

theorem replaces_strip (request : Request) :
    Headers.Replaces (edgeHeaders ++ [("authorization" : Text)]) [] request.headers
      (strip request).headers := by
  have removed (names before : List Text) (headers : Headers)
      (replaces : Headers.Replaces before [] request.headers headers) :
      Headers.Replaces (names.reverse ++ before) [] request.headers
        (names.foldl (fun hs name => hs.remove name) headers) := by
    induction names generalizing before headers with
    | nil => exact replaces
    | cons name names ih =>
      have next := ih (name :: before) (headers.remove name) (replaces.remove (by simp))
      simpa using next
  have all := removed (edgeHeaders ++ [("authorization" : Text)]) [] request.headers (.refl _)
  exact all.congr (by simp [or_comm])

theorem outcome_setHeader (name value : Text) (valid : Headers.isName name = true)
    (request : Request) :
    (setHeader name value valid).outcome request =
      if value.all isSendable then (.ok (), request.withHeader name (Utf8.encode value) valid)
      else
        (.error (.backendForward ("Failed to set " ++ name ++
          " header: forbidden control character")), request) := by
  unfold setHeader
  simp only [Headers.isValue_encode]
  split
  · rfl
  · rfl

theorem isVisible_of_isDateChar {c : Char} (char : Civil.isDateChar c = true) :
    isVisible c = true := by
  simp only [Civil.isDateChar, Bool.or_eq_true, decide_eq_true_eq] at char
  rcases char with (digit | rfl) | rfl
  · have range := Decimal.toNat_of_isDigit digit
    simp only [isVisible, Bool.or_eq_true, Bool.and_eq_true, decide_eq_true_eq]
    omega
  · decide
  · decide

theorem isVisible_of_mem_date {now : Civil} {c : Char} (member : c ∈ now.date) :
    isVisible c = true :=
  isVisible_of_isDateChar (Civil.isDateChar_of_mem_date member)

theorem isVisible_of_mem_timestamp {now : Civil} {c : Char} (member : c ∈ now.timestamp) :
    isVisible c = true := by
  rcases Civil.mem_timestamp member with date | rfl | rfl
  · exact isVisible_of_isDateChar date
  · decide
  · decide

theorem isVisible_of_mem_ofNat {n : Nat} {c : Char} (member : c ∈ Decimal.ofNat n) :
    isVisible c = true :=
  isVisible_of_isDateChar (by simp [Civil.isDateChar, Decimal.isDigit_of_mem_ofNat member])

theorem isVisible_of_mem_payloadHash {request : Request} {c : Char}
    (member : c ∈ payloadHash request) : isVisible c = true := by
  unfold payloadHash at member
  cases found : (request.headers.first? "x-amz-content-sha256").bind Headers.visible? with
  | none =>
    rw [found] at member
    have marks : unsignedPayload.all isVisible = true := by decide
    exact List.all_eq_true.mp marks c member
  | some value =>
    rw [found] at member
    obtain ⟨octets, -, shown⟩ := Option.bind_eq_some_iff.mp found
    exact (Headers.visible?_eq_some.mp shown).2 c member

theorem all_isSendable_of_visible {t : Text} (visible : ∀ c ∈ t, isVisible c = true) :
    t.all isSendable = true := by
  rw [List.all_eq_true]
  exact fun c member => Headers.isSendable_of_isVisible (visible c member)

/-! ## The request before it is signed -/

/-- A request that goes to an endpoint, without what is told of the caller's way here. -/
def hosted (endpoint : Endpoint) (uri : Uri) (request : Request) : Request :=
  ((strip request).withUri uri).withHeader "host" (Utf8.encode endpoint.authority) isName_host

/-- A request with the length of its body, if that is known. -/
def withLength (length : Option UInt64) (request : Request) : Request :=
  match length with
  | some length =>
    request.withHeader "content-length" (Utf8.encode (Decimal.ofNat length.toNat))
      isName_contentLength
  | none => request

def dated (timestamp : Text) (request : Request) : Request :=
  (request.withHeader "x-amz-content-sha256" (Utf8.encode (payloadHash request))
    isName_digest).withHeader "x-amz-date" (Utf8.encode timestamp) isName_date

/-- A request for an endpoint and an instant that was not signed yet. -/
def unsigned (endpoint : Endpoint) (timestamp : Text) (length : Option UInt64) (uri : Uri)
    (request : Request) : Request :=
  dated timestamp (withLength length (hosted endpoint uri request))

variable {target : Target} {endpoint : Endpoint} {credentials : Credentials} {now : Civil}
  {request result : Request}

theorem address_eq_ok_iff :
    (address target endpoint now.timestamp).outcome request = (.ok (), result) ↔
      ∃ length uri, contentLength request = .ok length ∧
        Uri.read target.pathAndQuery = .ok uri ∧ endpoint.authority.all isSendable = true ∧
        unsigned endpoint now.timestamp length uri request = result := by
  have sendable_length (n : Nat) : (Decimal.ofNat n).all isSendable = true :=
    all_isSendable_of_visible fun _ => isVisible_of_mem_ofNat
  have sendable_payload (sent : Request) : (payloadHash sent).all isSendable = true :=
    all_isSendable_of_visible fun _ => isVisible_of_mem_payloadHash
  have sendable_date : now.timestamp.all isSendable = true :=
    all_isSendable_of_visible fun _ => isVisible_of_mem_timestamp
  unfold address
  simp only [Attempt.outcome_bind, Attempt.outcome_get, Attempt.outcome_liftM,
    Attempt.outcome_modify]
  cases measured : contentLength request with
  | error e => simp
  | ok length =>
    cases read : Uri.read target.pathAndQuery with
    | error fault => simp
    | ok uri =>
      simp only [Attempt.outcome_bind, Attempt.outcome_modify, outcome_setHeader]
      by_cases host : endpoint.authority.all isSendable = true
      · cases length with
        | none =>
          simp only [host, if_true, Attempt.outcome_bind, Attempt.outcome_get, outcome_setHeader,
            sendable_payload, sendable_date]
          simp [unsigned, hosted, withLength, dated]
        | some length =>
          simp only [host, if_true, Attempt.outcome_bind, Attempt.outcome_get, outcome_setHeader,
            sendable_length, sendable_payload, sendable_date]
          simp [unsigned, hosted, withLength, dated]
      · simp [host]

theorem payloadHash_congr {other : Request}
    (same : request.headers.values "x-amz-content-sha256" =
      other.headers.values "x-amz-content-sha256") : payloadHash request = payloadHash other := by
  simp only [payloadHash, Headers.first?, same]

theorem has_contentLength_of_none (measured : contentLength request = .ok none) :
    request.headers.has "content-length" = false := by
  rw [← Headers.first?_eq_none_iff]
  cases found : request.headers.first? "content-length" with
  | none => rfl
  | some value =>
    rw [contentLength, found] at measured
    simp only at measured
    split at measured
    · cases measured
    · cases measured

theorem replaces_hosted (endpoint : Endpoint) (uri : Uri) (request : Request) :
    Headers.Replaces ("host" :: (edgeHeaders ++ [("authorization" : Text)]))
      [octets ("host", endpoint.authority)] request.headers
      (hosted endpoint uri request).headers :=
  (replaces_strip request).set (Utf8.encode endpoint.authority)
    isName_host (by simp)

theorem replaces_withLength {names : List Text} {own : List (Text × Bytes)} {sent : Request}
    {length : Option UInt64} (measured : contentLength request = .ok length)
    (replaces : Headers.Replaces names own request.headers sent.headers)
    (other : ("content-length" : Text) ∉ names) :
    Headers.Replaces ("content-length" :: names)
      (own ++ length.toList.map fun n => octets ("content-length", Decimal.ofNat n.toNat))
      request.headers (withLength length sent).headers := by
  cases length with
  | none =>
    rw [Option.toList_none, List.map_nil, List.append_nil]
    exact replaces.absent (has_contentLength_of_none measured)
  | some length =>
    exact replaces.set (Utf8.encode (Decimal.ofNat length.toNat))
      isName_contentLength (replaces.fresh other)

theorem replaces_dated {names : List Text} {own : List (Text × Bytes)} {sent : Request}
    (timestamp : Text) (replaces : Headers.Replaces names own request.headers sent.headers)
    (other : ("x-amz-content-sha256" : Text) ∉ names)
    (later : ("x-amz-date" : Text) ∉ ("x-amz-content-sha256" : Text) :: names) :
    Headers.Replaces ("x-amz-date" :: "x-amz-content-sha256" :: names)
      (own ++ [octets ("x-amz-content-sha256", payloadHash request)]
        ++ [octets ("x-amz-date", timestamp)]) request.headers (dated timestamp sent).headers := by
  have payload : payloadHash sent = payloadHash request :=
    payloadHash_congr (replaces.values_of_not_mem other)
  have hashed := replaces.set (Utf8.encode (payloadHash request))
    isName_digest (replaces.fresh other)
  unfold dated
  rw [payload]
  exact hashed.set (Utf8.encode timestamp) isName_date
    (hashed.fresh later)

theorem mem_ownNames {timestamp payload : Text} {length : Option UInt64} {field : Text × Bytes}
    (member : field ∈ (ownFields endpoint timestamp length payload).map octets) :
    field.1 ∈ ownNames := by
  obtain ⟨own, inside, rfl⟩ := List.mem_map.mp member
  simp only [ownFields, List.mem_append, List.mem_map, List.mem_cons, List.not_mem_nil,
    or_false] at inside
  rcases inside with (rfl | ⟨n, -, rfl⟩) | rfl | rfl
  · exact (by decide : ("host" : Text) ∈ ownNames)
  · exact (by decide : ("content-length" : Text) ∈ ownNames)
  · exact (by decide : ("x-amz-content-sha256" : Text) ∈ ownNames)
  · exact (by decide : ("x-amz-date" : Text) ∈ ownNames)

/-- Which fields the request has before it is signed. -/
theorem replaces_unsigned (endpoint : Endpoint) (timestamp : Text) {length : Option UInt64}
    (uri : Uri) (measured : contentLength request = .ok length) :
    Headers.Replaces replacedNames
      ((ownFields endpoint timestamp length (payloadHash request)).map octets)
      request.headers (unsigned endpoint timestamp length uri request).headers := by
  have lengthened := replaces_withLength measured (replaces_hosted endpoint uri request) (by decide)
  have dated := replaces_dated timestamp lengthened (by decide) (by decide)
  have own : (ownFields endpoint timestamp length (payloadHash request)).map octets =
      [octets ("host", endpoint.authority)]
        ++ length.toList.map (fun n => octets ("content-length", Decimal.ofNat n.toNat))
        ++ [octets ("x-amz-content-sha256", payloadHash request)]
        ++ [octets ("x-amz-date", timestamp)] := by
    simp only [ownFields, List.map_append, List.map_map, List.append_assoc]
    rfl
  rw [own]
  exact dated

end UploadInbox.Forwarding
