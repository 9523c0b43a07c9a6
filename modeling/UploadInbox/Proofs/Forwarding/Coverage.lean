import UploadInbox.Proofs.Forwarding.Resigned
import UploadInbox.Proofs.Text.Octets

/-!
# What a signature covers

The signature of a request for the store lists the names of which a value is a text, and under each
of them the texts among its values are signed. So a header that takes part in the signature is
covered, with all that is sent of it, exactly when all of its values are texts.
-/
namespace UploadInbox.Forwarding

open Headers (visible?)

/-- What an authorization covers of the values that are sent under a name: it lists the name, and
the value that is signed for it is made of them all, in their order. -/
structure Covers (authorization : Text) (subject : Signing.Subject) (headers : Headers)
    (name : Text) : Prop where
  listed : ∃ names, Signing.listedNames? authorization = some names ∧ name ∈ names
  whole : ∃ value, (name, value) ∈ Signing.signedFields subject.headers ∧
    Utf8.encode value = [0x2C].intercalate (headers.values name)

/-- The names that the signature of a request covers. -/
def coveredNames (target : Target) (request : Request) : List Text :=
  (Signing.signedFields (subject target request).headers).map (·.1)

variable {target : Target} {endpoint : Endpoint} {credentials : Credentials} {now : Civil}
  {length : Option UInt64} {request result : Request} {name : Text}

/-! ## Signed fields -/

theorem lookup_signedFields (target : Target) (request : Request) (name : Text) :
    (Signing.signedFields (subject target request).headers).lookup name =
      if Signing.isSigned name then
        SortedFields.joined? ((request.headers.values name).filterMap visible?)
      else none := by
  rw [← SortedFields.valuesOf_visible]
  exact Signing.lookup_signedFields_joining (fun _ => Headers.isName_of_mem_visible) name

theorem ascending_signedFields (target : Target) (request : Request) :
    SortedFields.Ascending (Signing.signedFields (subject target request).headers) :=
  Signing.ascending_signedFields_joining fun _ => Headers.isName_of_mem_visible

theorem isName_of_mem_signedFields {field : Text × Text}
    (member : field ∈ Signing.signedFields (subject target request).headers) :
    Headers.isName field.1 = true :=
  Signing.isName_of_mem_signedFields (fun _ => Headers.isName_of_mem_visible) member

/-- The names that are signed are those of which a value is a text. -/
theorem mem_coveredNames_iff :
    name ∈ coveredNames target request ↔
      Signing.isSigned name = true ∧
        ∃ value ∈ request.headers.values name, (visible? value).isSome = true := by
  have some_text : (request.headers.values name).filterMap visible? = [] ↔
      ¬ ∃ value ∈ request.headers.values name, (visible? value).isSome = true := by
    simp [List.filterMap_eq_nil_iff, Option.isSome_iff_ne_none]
  rw [coveredNames, SortedFields.mem_names_iff, lookup_signedFields]
  by_cases signed : Signing.isSigned name = true
  · simp only [signed, if_true, true_and, SortedFields.joined?, List.isEmpty_iff]
    by_cases empty : (request.headers.values name).filterMap visible? = []
    · simp only [empty, if_true, Option.isSome_none, Bool.false_eq_true, false_iff]
      exact some_text.mp empty
    · simp only [empty, if_false, Option.isSome_some, true_iff]
      exact Classical.not_not.mp fun absent => empty (some_text.mpr absent)
  · simp [signed]

/-! ## The list of names -/

/-- The instant is always signed. -/
theorem Resigned.date_signed
    (resigned : Resigned target endpoint credentials now length request result) :
    ("x-amz-date" : Text) ∈ coveredNames target result := by
  refine mem_coveredNames_iff.mpr ⟨by decide, Utf8.encode now.timestamp, ?_, ?_⟩
  · rw [resigned.values_date]
    exact List.mem_singleton_self _
  · rw [Headers.visible?_encode fun _ => isVisible_of_mem_timestamp]
    rfl

/-- The digest of the body is always signed. -/
theorem Resigned.digest_signed
    (resigned : Resigned target endpoint credentials now length request result) :
    ("x-amz-content-sha256" : Text) ∈ coveredNames target result := by
  refine mem_coveredNames_iff.mpr ⟨by decide, Utf8.encode (payloadHash request), ?_, ?_⟩
  · rw [resigned.values_digest]
    exact List.mem_singleton_self _
  · rw [Headers.visible?_encode fun _ => isVisible_of_mem_payloadHash]
    rfl

theorem Resigned.signedFields_ne_nil
    (resigned : Resigned target endpoint credentials now length request result) :
    Signing.signedFields (subject target result).headers ≠ [] := by
  intro empty
  have date := resigned.date_signed
  rw [coveredNames, empty] at date
  cases date

/-- The authorization lists the names that are signed. -/
theorem Resigned.listedNames?_signature
    (resigned : Resigned target endpoint credentials now length request result) :
    Signing.listedNames? (signature credentials now target result) =
      some (coveredNames target result) :=
  Signing.listedNames?_authorization _ _ _ _ (fun _ => isName_of_mem_signedFields)
    resigned.signedFields_ne_nil

/-! ## All that is sent of a header -/

/-- The value that is signed for a name is made of all that is sent of it exactly when all of that
is text. -/
theorem whole_iff (signed : Signing.isSigned name = true) (sent : request.headers.has name = true) :
    (∃ value, (name, value) ∈ Signing.signedFields (subject target request).headers ∧
      Utf8.encode value = [0x2C].intercalate (request.headers.values name)) ↔
    ∀ value ∈ request.headers.values name, (visible? value).isSome = true := by
  have found {value : Text} :
      (name, value) ∈ Signing.signedFields (subject target request).headers ↔
        SortedFields.joined? ((request.headers.values name).filterMap visible?) = some value := by
    rw [SortedFields.mem_iff_lookup (ascending_signedFields target request), lookup_signedFields,
      if_pos signed]
  constructor
  · -- All octets of what is signed are visible, so those of every value that is in it are.
    rintro ⟨value, member, whole⟩ sent_value inside
    have joined := found.mp member
    have visible : ∀ c ∈ value, Headers.isVisible c = true := by
      unfold SortedFields.joined? at joined
      split at joined
      · cases joined
      · obtain rfl := Option.some.inj joined
        refine Text.forall_mem_join (List.forall_mem_singleton.mpr (by decide)) ?_
        intro t member
        obtain ⟨octets, -, shown⟩ := List.mem_filterMap.mp member
        exact (Headers.visible?_eq_some.mp shown).2
    have shown : (visible? (Utf8.encode value)).isSome = true := by
      rw [Headers.visible?_encode visible]
      rfl
    refine Headers.visible?_isSome_of_subset shown fun b octet => ?_
    rw [whole]
    exact Text.mem_intercalate_of_mem inside octet
  · intro texts
    have octets := Headers.map_encode_visible texts
    have filled : (request.headers.values name).filterMap visible? ≠ [] := by
      intro empty
      rw [empty] at octets
      have absent := Headers.values_eq_nil_iff.mp octets.symm
      rw [absent] at sent
      cases sent
    refine ⟨Text.join [','] ((request.headers.values name).filterMap visible?), ?_, ?_⟩
    · rw [found, SortedFields.joined?, if_neg (by simpa using filled)]
    · rw [Text.join_eq_intercalate,
        Utf8.encode_intercalate (by decide : ','.toNat < 128), octets]
      rfl

/-- A header that takes part in the signature is covered, with all that is sent of it, exactly when
all of its values are texts. -/
theorem covers_iff_visible
    (resigned : (resign target endpoint credentials now).outcome request = (.ok (), result)) :
    result.headers.values "authorization" =
      [Utf8.encode (signature credentials now target result)] ∧
    ∀ name, Signing.isSigned name = true → result.headers.has name = true →
      (Covers (signature credentials now target result) (subject target result) result.headers name
        ↔ ∀ value ∈ result.headers.values name, (visible? value).isSome = true) := by
  obtain ⟨length, resigned⟩ := resign_eq_ok_iff_resigned.mp resigned
  refine ⟨resigned.values_authorization, fun name signed sent => ?_⟩
  rw [← whole_iff signed sent]
  constructor
  · intro covers
    exact covers.whole
  · rintro ⟨value, member, whole⟩
    have listed : name ∈ coveredNames target result := List.mem_map_of_mem member
    exact ⟨⟨_, resigned.listedNames?_signature, listed⟩, value, member, whole⟩

/-! ## One upload -/

theorem values_forwarded {host : Text} (sendable : host.all Headers.isSendable = true)
    (name : Bytes) : (forwarded host name).headers.values "x-amz-meta-name" = [name] := by
  rw [(resigned_forwarded sendable name).headers.values_of_not_mem (by decide)]
  rfl

theorem has_forwarded {host : Text} (sendable : host.all Headers.isSendable = true)
    (name : Bytes) : (forwarded host name).headers.has "x-amz-meta-name" = true := by
  rw [← Bool.not_eq_false, ← Headers.values_eq_nil_iff, values_forwarded sendable]
  simp

/-- A name in ASCII is covered. -/
theorem covers_forwarded :
    (resign destination ⟨"store", 9000, false⟩ keys morning).outcome (upload (Utf8.encode "Ada")) =
      (.ok (), forwarded "store" (Utf8.encode "Ada")) ∧
    Covers (signature keys morning destination (forwarded "store" (Utf8.encode "Ada")))
      (subject destination (forwarded "store" (Utf8.encode "Ada")))
      (forwarded "store" (Utf8.encode "Ada")).headers "x-amz-meta-name" := by
  have success := resign_upload (by decide : ("store" : Text).all Headers.isSendable = true)
    (Utf8.encode "Ada")
  have sent := has_forwarded (by decide : ("store" : Text).all Headers.isSendable = true)
    (Utf8.encode "Ada")
  refine ⟨success, ((covers_iff_visible success).2 "x-amz-meta-name" (by decide) sent).mpr ?_⟩
  rw [values_forwarded (by decide)]
  decide

/-- A name beyond ASCII goes to the store without being covered. -/
theorem not_covers_forwarded :
    (resign destination ⟨"store", 9000, false⟩ keys morning).outcome (upload (Utf8.encode "é")) =
      (.ok (), forwarded "store" (Utf8.encode "é")) ∧
    Signing.isSigned "x-amz-meta-name" = true ∧
    (forwarded "store" (Utf8.encode "é")).headers.values "x-amz-meta-name" = [Utf8.encode "é"] ∧
    ¬ Covers (signature keys morning destination (forwarded "store" (Utf8.encode "é")))
      (subject destination (forwarded "store" (Utf8.encode "é")))
      (forwarded "store" (Utf8.encode "é")).headers "x-amz-meta-name" := by
  have sendable : ("store" : Text).all Headers.isSendable = true := by decide
  have values := values_forwarded sendable (Utf8.encode "é")
  refine ⟨resign_upload sendable _, by decide, values, fun covers => ?_⟩
  have texts := (whole_iff (by decide) (has_forwarded sendable _)).mp covers.whole
  rw [values] at texts
  exact absurd texts (by decide)

end UploadInbox.Forwarding
