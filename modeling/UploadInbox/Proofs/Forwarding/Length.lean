import UploadInbox.Proofs.Forwarding.Purged
import UploadInbox.Proofs.Text.Decimal

/-!
# Declared lengths

A request declares its length without doubt if all values of that header are one number in digits.
Whatever else stands there is a reason to refuse it, and so is an upload without a length. Only the
first value is looked at, though, and a plus sign may precede its digits: `Lapse` says which lengths
are taken for a number that were to be refused. All others are judged as they should be, and what
goes on to the store is the number on which all values agree.
-/
namespace UploadInbox.Forwarding

open Headers (visible?)

variable {request : Request} {n : UInt64}

/-- A value declares a length: it is the number in digits, blanks around them apart. -/
def Declares (n : UInt64) (value : Bytes) : Prop :=
  ∃ written, visible? value = some written ∧ Decimal.IsNumeral (Blank.trim written) n.toNat

/-- A request declares a length, and every value of the header declares that one. -/
structure Agrees (request : Request) (n : UInt64) : Prop where
  declared : request.headers.values "content-length" ≠ []
  alike : ∀ value ∈ request.headers.values "content-length", Declares n value

/-- The length of a request is known if it is declared without doubt, left out if it may be, and
refused in every other case. -/
structure Measured (request : Request) : Prop where
  known : ∀ n, contentLength request = .ok (some n) ↔ Agrees request n
  unknown : contentLength request = .ok none ↔
    request.headers.values "content-length" = [] ∧ request.method ≠ .put ∧ request.method ≠ .post
  refused : ∀ e, contentLength request = .error e → ∃ reason, e = .backendForward reason
  /-- A length reaches the store only as the number that was declared without doubt. -/
  forwarded : ∀ target endpoint credentials now result,
    (resign target endpoint credentials now).outcome request = (.ok (), result) →
    ∀ value ∈ result.headers.values "content-length",
      ∃ n : UInt64, value = Utf8.encode (Decimal.ofNat n.toNat) ∧ Agrees request n

/-- What makes a length known that is to be refused. -/
inductive Lapse (request : Request) : Prop
  /-- The first value has a sign before its digits. -/
  | signed {value : Bytes} {rest : List Bytes} {written digits : Text} {n : UInt64}
    (values : request.headers.values "content-length" = value :: rest)
    (text : visible? value = some written) (sign : Blank.trim written = '+' :: digits)
    (numeral : Decimal.IsNumeral digits n.toNat)
  /-- The first value is a number, and another one is not the same. -/
  | disputed {value other : Bytes} {rest : List Bytes} {n : UInt64}
    (values : request.headers.values "content-length" = value :: rest)
    (declares : Declares n value) (later : other ∈ rest) (differs : ¬ Declares n other)

/-! ## What is read -/

/-- The first value alone decides, and a plus sign may precede its digits. -/
theorem contentLength_eq_some_iff :
    contentLength request = .ok (some n) ↔
      ∃ value rest written digits, request.headers.values "content-length" = value :: rest ∧
        visible? value = some written ∧
        (Blank.trim written = digits ∨ Blank.trim written = '+' :: digits) ∧
        Decimal.IsNumeral digits n.toNat := by
  constructor
  · intro measured
    cases declared : request.headers.first? "content-length" with
    | none =>
      obtain ⟨-, absent⟩ := isUpload_of_contentLength measured declared
      cases absent
    | some value =>
      obtain ⟨written, m, text, read, same⟩ := written_of_contentLength measured declared
      cases same
      obtain ⟨rest, values⟩ := List.head?_eq_some_iff.mp declared
      obtain ⟨digits, spelled, numeral⟩ :=
        Decimal.readSigned?_eq_some_iff.mp (Decimal.readUInt64?_eq_some_iff.mp read)
      exact ⟨value, rest, written, digits, values, text, spelled, numeral⟩
  · rintro ⟨value, rest, written, digits, values, text, spelled, numeral⟩
    have declared : request.headers.first? "content-length" = some value := by
      rw [Headers.first?, values, List.head?_cons]
    have read : Decimal.readUInt64? (Blank.trim written) = some n :=
      Decimal.readUInt64?_eq_some_iff.mpr
        (Decimal.readSigned?_eq_some_iff.mpr ⟨digits, spelled, numeral⟩)
    rw [contentLength, declared]
    simp only [text, Option.bind_some, read]

theorem contentLength_eq_none_iff :
    contentLength request = .ok none ↔
      request.headers.values "content-length" = [] ∧
        request.method ≠ .put ∧ request.method ≠ .post := by
  have stores : request.method.isUpload = false ↔
      request.method ≠ .put ∧ request.method ≠ .post := by
    simp [Method.isUpload]
  constructor
  · intro measured
    cases declared : request.headers.first? "content-length" with
    | none =>
      obtain ⟨other, -⟩ := isUpload_of_contentLength measured declared
      exact ⟨List.head?_eq_none_iff.mp declared, stores.mp other⟩
    | some value =>
      obtain ⟨_, _, _, _, same⟩ := written_of_contentLength measured declared
      cases same
  · rintro ⟨absent, other⟩
    have undeclared : request.headers.first? "content-length" = none := by
      rw [Headers.first?, absent, List.head?_nil]
    rw [contentLength, undeclared]
    simp only [stores.mpr other]
    rfl

theorem backendForward_of_contentLength {e : Error} (refused : contentLength request = .error e) :
    ∃ reason, e = .backendForward reason := by
  unfold contentLength at refused
  split at refused
  · split at refused
    · cases refused
    · exact ⟨_, (Except.error.inj refused).symm⟩
  · split at refused
    · exact ⟨_, (Except.error.inj refused).symm⟩
    · cases refused

/-! ## What is forwarded -/

/-- The length that goes on to the store is the one that was read. -/
theorem measured_of_resign {target : Target} {endpoint : Endpoint} {credentials : Credentials}
    {now : Civil} {result : Request}
    (resigned : (resign target endpoint credentials now).outcome request = (.ok (), result))
    {value : Bytes} (sent : value ∈ result.headers.values "content-length") :
    ∃ n : UInt64, value = Utf8.encode (Decimal.ofNat n.toNat) ∧
      contentLength request = .ok (some n) := by
  obtain ⟨length, resigned⟩ := resign_eq_ok_iff_resigned.mp resigned
  rw [resigned.values_contentLength] at sent
  obtain ⟨n, known, rfl⟩ := List.mem_map.mp sent
  rw [Option.mem_toList.mp known] at resigned
  exact ⟨n, rfl, resigned.measured⟩

/-! ## Lengths without doubt -/

theorem Declares.unique {m : UInt64} {value : Bytes} (declares : Declares n value)
    (also : Declares m value) : n = m := by
  obtain ⟨written, text, numeral⟩ := declares
  obtain ⟨other, same, numeral'⟩ := also
  rw [text] at same
  cases same
  exact UInt64.toNat_inj.mp (numeral.value.symm.trans numeral'.value)

/-- Digits have no sign. -/
theorem not_declares_of_sign {value : Bytes} {written digits : Text}
    (text : visible? value = some written) (sign : Blank.trim written = '+' :: digits) :
    ¬ Declares n value := by
  rintro ⟨other, same, numeral⟩
  rw [text] at same
  cases same
  have digit := numeral.digits '+' (by rw [sign]; exact List.mem_cons_self)
  exact absurd digit (by decide)

theorem contentLength_of_agrees (agrees : Agrees request n) :
    contentLength request = .ok (some n) := by
  obtain ⟨value, rest, values⟩ := List.exists_cons_of_ne_nil agrees.declared
  obtain ⟨written, text, numeral⟩ := agrees.alike value (by rw [values]; exact List.mem_cons_self)
  exact contentLength_eq_some_iff.mpr ⟨value, rest, written, _, values, text, .inl rfl, numeral⟩

/-- Without a lapse the length that is read is the one on which all values agree. -/
theorem agrees_of_contentLength (sound : ¬ Lapse request)
    (measured : contentLength request = .ok (some n)) : Agrees request n := by
  obtain ⟨value, rest, written, digits, values, text, spelled, numeral⟩ :=
    contentLength_eq_some_iff.mp measured
  rcases spelled with plain | sign
  · have declares : Declares n value := ⟨written, text, plain ▸ numeral⟩
    refine ⟨by rw [values]; exact List.cons_ne_nil value rest, fun other member => ?_⟩
    rw [values] at member
    rcases List.mem_cons.mp member with rfl | later
    · exact declares
    · by_contra differs
      exact sound (.disputed values declares later differs)
  · exact absurd (.signed values text sign numeral) sound

/-- Where there is a lapse, a length is read on which the values do not agree. -/
theorem Lapse.exists_contentLength (lapse : Lapse request) :
    ∃ n, contentLength request = .ok (some n) ∧ ¬ Agrees request n := by
  rcases lapse with
    @⟨value, rest, written, digits, n, values, text, sign, numeral⟩ |
    @⟨value, other, rest, n, values, ⟨written, text, numeral⟩, later, differs⟩
  · refine ⟨n, contentLength_eq_some_iff.mpr
      ⟨value, rest, written, digits, values, text, .inr sign, numeral⟩, fun agrees => ?_⟩
    have first := agrees.alike value (by rw [values]; exact List.mem_cons_self)
    exact not_declares_of_sign text sign first
  · refine ⟨n, contentLength_eq_some_iff.mpr
      ⟨value, rest, written, _, values, text, .inl rfl, numeral⟩, fun agrees => ?_⟩
    exact differs (agrees.alike other (by rw [values]; exact List.mem_cons_of_mem value later))

/-- A length is judged as it should be exactly when there is no lapse. -/
theorem measured_iff_not_lapse (request : Request) : Measured request ↔ ¬ Lapse request := by
  constructor
  · intro measured lapse
    obtain ⟨n, read, disputed⟩ := lapse.exists_contentLength
    exact disputed ((measured.known n).mp read)
  · intro sound
    refine ⟨fun n => ⟨agrees_of_contentLength sound, contentLength_of_agrees⟩,
      contentLength_eq_none_iff, fun e => backendForward_of_contentLength, ?_⟩
    intro target endpoint credentials now result resigned value sent
    obtain ⟨n, written, measured⟩ := measured_of_resign resigned sent
    exact ⟨n, written, agrees_of_contentLength sound measured⟩

/-- A length with a sign is taken for a number, and so is the first of two that differ. -/
theorem not_measured_signed_conflicting :
    contentLength repeatedHeaders = .ok (some 5) ∧ ¬ Measured repeatedHeaders := by
  refine ⟨by decide, fun measured => ?_⟩
  have agrees := (measured.known 5).mp (by decide)
  have declares : Declares 5 (Utf8.encode "7") := agrees.alike _ (by decide)
  obtain ⟨written, text, numeral⟩ := declares
  have seven : Headers.visible? (Utf8.encode "7") = some "7" := by decide
  rw [seven] at text
  cases text
  exact absurd numeral.value (by decide)

end UploadInbox.Forwarding
