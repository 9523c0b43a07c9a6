import UploadInbox.Proofs.Forwarding.Resigned

/-!
# What the caller has in a signature

Of what a caller sends, only the method, the first digest of the body and the texts under a few
names go into the signature of the request that is made of it. Two requests that agree on these are
signed alike, however different they are otherwise.
-/
namespace UploadInbox.Forwarding

open Headers (visible?)

variable {target : Target} {endpoint : Endpoint} {credentials : Credentials} {now : Civil}
  {first second first' second' : Request} {length length' : Option UInt64} {name : Text}

/-- A name under which the caller's texts are signed. -/
def IsTaken (name : Text) : Prop :=
  name = "content-md5" ∨ name = "content-type" ∨
    Text.startsWith "x-amz-" name = true ∧
      name ∉ (["x-amz-security-token", "x-amz-date", "x-amz-content-sha256"] : List Text)

instance : DecidablePred IsTaken := fun _ => inferInstanceAs (Decidable (_ ∨ _ ∨ _))

/-- Two requests agree on what is signed of them. -/
structure SignedAlike (first second : Request) : Prop where
  method : first.method = second.method
  digest : first.headers.first? "x-amz-content-sha256" =
    second.headers.first? "x-amz-content-sha256"
  texts : ∀ name, IsTaken name →
    (first.headers.values name).filterMap visible? =
      (second.headers.values name).filterMap visible?

theorem SignedAlike.payloadHash_eq (alike : SignedAlike first second) :
    payloadHash first = payloadHash second := by
  rw [payloadHash, payloadHash, alike.digest]

/-- A name that is signed is the caller's, unless its fields are replaced. -/
theorem isTaken_of_isSigned (signed : Signing.isSigned name = true)
    (lower : Text.lowerAscii name = name) (kept : name ∉ replacedNames) : IsTaken name := by
  have excepted_replaced :
      ∀ other ∈ (["x-amz-security-token", "x-amz-date", "x-amz-content-sha256"] : List Text),
        other ∈ replacedNames := by decide
  simp only [Signing.isSigned, lower, Bool.or_eq_true, decide_eq_true_eq] at signed
  rcases signed with ((host | digest) | type) | prefixed
  · rw [host] at kept
    exact absurd (by decide) kept
  · exact .inl digest
  · exact .inr (.inl type)
  · exact .inr (.inr ⟨prefixed, fun excepted => kept (excepted_replaced name excepted)⟩)

/-- Under a name that is signed, requests that were made over carry the same texts. -/
theorem texts_eq_of_signedAlike (alike : SignedAlike first second)
    (first_made : Resigned target endpoint credentials now length first first')
    (second_made : Resigned target endpoint credentials now length' second second')
    (signed : Signing.isSigned name = true) :
    (first'.headers.values name).filterMap visible? =
      (second'.headers.values name).filterMap visible? := by
  by_cases replaced : name ∈ replacedNames
  · -- The inbox's own values take nothing from the caller but the digest.
    have own : ∀ name ∈ replacedNames, Signing.isSigned name = true →
        name ∈ edgeHeaders ∨ name = ("host" : Text) ∨ name = ("x-amz-content-sha256" : Text) ∨
          name = ("x-amz-date" : Text) := by decide
    rcases own name replaced signed with edge | rfl | rfl | rfl
    · rw [first_made.values_edge edge, second_made.values_edge edge]
    · rw [first_made.values_host, second_made.values_host]
    · rw [first_made.values_digest, second_made.values_digest, alike.payloadHash_eq]
    · rw [first_made.values_date, second_made.values_date]
  · rw [first_made.headers.values_of_not_mem replaced,
      second_made.headers.values_of_not_mem replaced]
    by_cases lower : Text.lowerAscii name = name
    · exact alike.texts name (isTaken_of_isSigned signed lower replaced)
    · rw [Headers.values_of_lowerAscii_ne first.headers lower,
        Headers.values_of_lowerAscii_ne second.headers lower]

/-- Requests that agree on what is signed of them are given the same authorization. -/
theorem authorization_eq_of_signedAlike (alike : SignedAlike first second)
    (first_made : (resign target endpoint credentials now).outcome first = (.ok (), first'))
    (second_made : (resign target endpoint credentials now).outcome second = (.ok (), second')) :
    ∃ authorization, first'.headers.values "authorization" = [authorization] ∧
      second'.headers.values "authorization" = [authorization] := by
  obtain ⟨length, first_made⟩ := resign_eq_ok_iff_resigned.mp first_made
  obtain ⟨length', second_made⟩ := resign_eq_ok_iff_resigned.mp second_made
  have method : first'.method = second'.method := by
    rw [first_made.method, second_made.method, alike.method]
  have payload : payloadHash first' = payloadHash second' := by
    apply payloadHash_congr
    rw [first_made.values_digest, second_made.values_digest, alike.payloadHash_eq]
  have same : signature credentials now target first' = signature credentials now target second' :=
    signature_congr method payload fun _ => texts_eq_of_signedAlike alike first_made second_made
  refine ⟨_, first_made.values_authorization, ?_⟩
  rw [same]
  exact second_made.values_authorization

/-! ## Two uploads -/

/-- An upload of nine octets under the same name in its metadata, to another path, by another
caller. -/
def elsewhere : Request where
  method := .put
  uri := ⟨"/bob/other.bam", some "x=1"⟩
  wire := Utf8.encode "/bob/other.bam?x=1"
  headers := {
    fields := [("host", Utf8.encode "inbox"), ("x-amz-date", Utf8.encode "20240101T000000Z"),
      ("x-amz-meta-name", Utf8.encode "Ada"), ("content-length", Utf8.encode "9"),
      ("authorization", Utf8.encode "Bearer token"), ("user-agent", Utf8.encode "client"),
      ("x-amz-security-token", Utf8.encode "token"), ("x-real-ip", Utf8.encode "10.0.0.1"),
      ("x-amz-meta-name", [0xFF])]
    named := by decide }

/-- Nothing stands under a name that is taken where of these only the one in the metadata occurs. -/
theorem values_of_isTaken {headers : Headers} (taken : IsTaken name)
    (other : name ≠ "x-amz-meta-name")
    (untaken : ∀ field ∈ headers.fields,
      field.1 = ("x-amz-meta-name" : Text) ∨ ¬ IsTaken field.1) : headers.values name = [] := by
  rw [Headers.values, List.map_eq_nil_iff, List.filter_eq_nil_iff]
  intro field member same
  rw [decide_eq_true_eq] at same
  rcases untaken field member with metadata | untaken
  · exact other (same.symm.trans metadata)
  · exact untaken (same ▸ taken)

theorem signedAlike_elsewhere : SignedAlike (upload (Utf8.encode "Ada")) elsewhere := by
  refine ⟨rfl, rfl, fun name taken => ?_⟩
  by_cases metadata : name = "x-amz-meta-name"
  · rw [metadata]
    decide
  · rw [values_of_isTaken taken metadata (by decide), values_of_isTaken taken metadata (by decide)]

theorem authorization_eq_elsewhere :
    SignedAlike (upload (Utf8.encode "Ada")) elsewhere ∧
    ∃ first second authorization,
      (resign destination ⟨"store", 9000, false⟩ keys morning).outcome
        (upload (Utf8.encode "Ada")) = (.ok (), first) ∧
      (resign destination ⟨"store", 9000, false⟩ keys morning).outcome elsewhere =
        (.ok (), second) ∧
      first.headers.values "authorization" = [authorization] ∧
      second.headers.values "authorization" = [authorization] := by
  have sendable : ("store" : Text).all Headers.isSendable = true := by decide
  have first_success := resign_upload sendable (Utf8.encode "Ada")
  have resigned : Resigned destination ⟨"store", 9000, false⟩ keys morning (some 9) elsewhere _ :=
    resigned_signed (by rfl) (by rfl) (by decide) (by decide) (by decide)
  have second_success := resign_eq_ok_iff_resigned.mpr ⟨some 9, resigned⟩
  obtain ⟨authorization, values⟩ :=
    authorization_eq_of_signedAlike signedAlike_elsewhere first_success second_success
  exact ⟨signedAlike_elsewhere, _, _, authorization, first_success, second_success, values⟩

end UploadInbox.Forwarding
