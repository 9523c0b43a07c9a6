import UploadInbox.Percent
import UploadInbox.Proofs.Text.Characters
import UploadInbox.Proofs.Text.Utf8

/-!
# Percent coding undone

Decoding undoes encoding, whatever follows, and octets that are no part of an escape decode to
themselves and part what is decoded before them from what is decoded after them. Encoded text is of
unreserved characters and escapes alone, so that no separator of a path or a query stands in it.
-/
namespace UploadInbox.Percent

/-- The octets that a text decodes to, whether or not they are those of a text. -/
def octets (t : Text) : Bytes := decodeBytes (Utf8.encode t)

def queryOctets (t : Text) : Bytes := octets (spaced t)

/-! ## What decoding does with an octet -/

theorem decodeBytes_plain {b : UInt8} (plain : b ≠ 0x25) (rest : Bytes) :
    decodeBytes (b :: rest) = b :: decodeBytes rest := by
  rw [decodeBytes]
  rintro - - - rfl
  exact absurd rfl plain

theorem decodeBytes_escape {a b high low : UInt8} (first : digit? a = some high)
    (second : digit? b = some low) (rest : Bytes) :
    decodeBytes (0x25 :: a :: b :: rest) = (high * 16 + low) :: decodeBytes rest := by
  rw [decodeBytes, first, second]

/-- A percent sign that two digits do not follow stands for itself. -/
theorem decodeBytes_kept {a b : UInt8}
    (not_both : ∀ high low, digit? a = some high → digit? b = some low → False) (rest : Bytes) :
    decodeBytes (0x25 :: a :: b :: rest) = 0x25 :: decodeBytes (a :: b :: rest) := by
  rw [decodeBytes]
  cases first : digit? a with
  | none => rfl
  | some high =>
    cases second : digit? b with
    | none => rfl
    | some low => exact absurd second (not_both high low first)

theorem decodeBytes_stray {a : UInt8} (other : digit? a = none) (rest : Bytes) :
    decodeBytes (0x25 :: a :: rest) = 0x25 :: decodeBytes (a :: rest) := by
  cases rest with
  | nil =>
    rw [decodeBytes]
    simp
  | cons b rest => exact decodeBytes_kept (by simp [other]) rest

/-- No escape goes across an octet that is neither a percent sign nor a digit. -/
theorem decodeBytes_append_cons {mark : UInt8} (plain : mark ≠ 0x25) (other : digit? mark = none)
    (before after : Bytes) :
    decodeBytes (before ++ mark :: after) = decodeBytes before ++ mark :: decodeBytes after := by
  fun_induction decodeBytes before with
  | case1 a b rest low high second first ih =>
    simp only [List.cons_append]
    rw [decodeBytes_escape first second, ih]
  | case2 a b rest not_both ih =>
    simp only [List.cons_append] at ih ⊢
    rw [decodeBytes_kept not_both, ih]
  | case3 b rest no_escape ih =>
    by_cases sign : b = 0x25
    · -- At the end of what stands before, the mark is where a digit would be.
      subst sign
      match rest with
      | [] =>
        rw [List.cons_append, List.nil_append, decodeBytes_stray other, decodeBytes_plain plain]
        rfl
      | [a] =>
        simp only [List.cons_append, List.nil_append] at ih ⊢
        rw [decodeBytes_kept (by simp [other]), ih]
      | a :: b :: rest => exact absurd rfl (no_escape a b rest rfl)
    · rw [List.cons_append, decodeBytes_plain sign, ih]
      rfl
  | case4 => rw [List.nil_append, List.nil_append, decodeBytes_plain plain]

/-- The same for a character of a text. -/
theorem octets_append_cons {mark : Char} (ascii : mark.toNat < 128)
    (plain : UInt8.ofNat mark.toNat ≠ 0x25) (other : digit? (UInt8.ofNat mark.toNat) = none)
    (before after : Text) :
    octets (before ++ mark :: after) =
      octets before ++ UInt8.ofNat mark.toNat :: octets after := by
  rw [octets, Utf8.encode_append, Utf8.encode_cons, Utf8.utf8EncodeChar_ascii ascii]
  exact decodeBytes_append_cons plain other (Utf8.encode before) (Utf8.encode after)

/-- Without a percent sign there is nothing to decode. -/
theorem octets_of_not_mem {t : Text} (absent : '%' ∉ t) : octets t = Utf8.encode t := by
  have plain : ∀ bytes : Bytes, 0x25 ∉ bytes → decodeBytes bytes = bytes := by
    intro bytes absent
    induction bytes with
    | nil => rfl
    | cons b bytes ih =>
      rw [decodeBytes_plain (List.ne_of_not_mem_cons absent).symm,
        ih (List.not_mem_of_not_mem_cons absent)]
  exact plain _ fun member => absent (Utf8.mem_of_mem_encode member (by decide))

/-! ## What encoding writes -/

@[simp] theorem encode_append (s t : Text) : encode (s ++ t) = encode s ++ encode t := by
  rw [encode, Utf8.encode_append]
  exact List.flatMap_append

def isWritten (c : Char) : Bool :=
  c = '%' || c.isAlphanum || c = '-' || c = '.' || c = '_' || c = '~'

theorem lt_of_isWritten {c : Char} (written : isWritten c = true) : c.toNat < 128 := by
  simp only [isWritten, Bool.or_eq_true, decide_eq_true_eq] at written
  rcases written with ((((rfl | letter) | rfl) | rfl) | rfl) | rfl
  · decide
  · have bounds := bounds_of_isAlphanum letter
    omega
  · decide
  · decide
  · decide
  · decide

/-- Whether a character is unreserved: encoding writes it for itself. -/
def isKept (c : Char) : Bool := c.isAlphanum || c = '-' || c = '.' || c = '_' || c = '~'

def isUpperHexDigit (c : Char) : Bool := "0123456789ABCDEF".toList.contains c

/-- Text of unreserved characters and of escapes in uppercase digits. -/
inductive Escaped : Text → Prop
  | nil : Escaped []
  | kept {c : Char} {rest : Text} (unreserved : isKept c = true) (escaped : Escaped rest) :
      Escaped (c :: rest)
  | escape {high low : Char} {rest : Text} (first : isUpperHexDigit high = true)
      (second : isUpperHexDigit low = true) (escaped : Escaped rest) :
      Escaped ('%' :: high :: low :: rest)

theorem isWritten_of_isKept {c : Char} (unreserved : isKept c = true) : isWritten c = true := by
  have parts : isWritten c = (decide (c = '%') || isKept c) := by
    simp only [isWritten, isKept, Bool.or_assoc]
  rw [parts, unreserved, Bool.or_true]

theorem isWritten_of_isUpperHexDigit {c : Char} (digit : isUpperHexDigit c = true) :
    isWritten c = true := by
  have every : ∀ d ∈ "0123456789ABCDEF".toList, isWritten d = true :=
    List.all_eq_true.mp (by decide)
  exact every c (List.contains_iff_mem.mp digit)

theorem Escaped.isWritten {t : Text} (escaped : Escaped t) : ∀ c ∈ t, isWritten c = true := by
  induction escaped with
  | nil => simp
  | kept unreserved _ ih => simpa [isWritten_of_isKept unreserved] using ih
  | escape first second _ ih =>
    have sign : Percent.isWritten '%' = true := by decide
    simpa [sign, isWritten_of_isUpperHexDigit first, isWritten_of_isUpperHexDigit second] using ih

theorem isKept_of_isUnreserved {b : UInt8} (unreserved : isUnreserved b = true) :
    isKept (Char.ofNat b.toNat) = true := by
  have every : ∀ n < 256, isUnreserved (UInt8.ofNat n) = true → isKept (Char.ofNat n) = true := by
    decide +kernel
  apply every b.toNat b.toNat_lt
  rwa [UInt8.ofNat_toNat]

theorem isUpperHexDigit_upperDigit {n : Nat} (small : n < 16) :
    isUpperHexDigit (Hex.upperDigit n) = true := by
  have every : ∀ n < 16, isUpperHexDigit (Hex.upperDigit n) = true := by decide
  exact every n small

/-- An octet is written as an unreserved character or as an escape. -/
theorem escaped_encodeOctet_append (b : UInt8) {rest : Text} (escaped : Escaped rest) :
    Escaped (encodeOctet b ++ rest) := by
  unfold encodeOctet
  split
  next unreserved => exact .kept (isKept_of_isUnreserved unreserved) escaped
  next =>
    have octet := b.toNat_lt
    apply Escaped.escape
    · exact isUpperHexDigit_upperDigit (by omega)
    · exact isUpperHexDigit_upperDigit (by omega)
    · exact escaped

theorem escaped_encodeBytes (bytes : Bytes) : Escaped (encodeBytes bytes) := by
  induction bytes with
  | nil => exact .nil
  | cons b bytes ih => exact escaped_encodeOctet_append b ih

theorem isWritten_of_mem_encodeBytes {bytes : Bytes} {c : Char} (member : c ∈ encodeBytes bytes) :
    isWritten c = true :=
  (escaped_encodeBytes bytes).isWritten c member

/-- No separator of a path or a query, nor a plus sign, stands in encoded octets. -/
theorem not_mem_encodeBytes {c : Char} (reserved : isWritten c = false) (bytes : Bytes) :
    c ∉ encodeBytes bytes :=
  not_mem_of_class (fun _ => isWritten_of_mem_encodeBytes) reserved

theorem not_mem_encode {c : Char} (reserved : isWritten c = false) (t : Text) : c ∉ encode t :=
  not_mem_encodeBytes reserved (Utf8.encode t)

theorem digit?_upperDigit {n : Nat} (small : n < 16) :
    (Hex.upperDigit n).toNat < 128 ∧
      digit? (UInt8.ofNat (Hex.upperDigit n).toNat) = some (UInt8.ofNat n) := by
  have every : ∀ n < 16, (Hex.upperDigit n).toNat < 128 ∧
      digit? (UInt8.ofNat (Hex.upperDigit n).toNat) = some (UInt8.ofNat n) := by
    decide
  exact every n small

theorem encode_upperOctet (b : UInt8) :
    Utf8.encode ('%' :: Hex.upperOctet b) =
      [0x25, UInt8.ofNat (Hex.upperDigit (b.toNat / 16)).toNat,
        UInt8.ofNat (Hex.upperDigit (b.toNat % 16)).toNat] := by
  have octet := b.toNat_lt
  have first := digit?_upperDigit (n := b.toNat / 16) (by omega)
  have second := digit?_upperDigit (n := b.toNat % 16) (by omega)
  rw [Hex.upperOctet, Utf8.encode_cons, Utf8.encode_cons, Utf8.encode_cons,
    Utf8.utf8EncodeChar_ascii first.1, Utf8.utf8EncodeChar_ascii second.1]
  rfl

theorem isUnreserved_lt {b : UInt8} (unreserved : isUnreserved b = true) :
    b.toNat < 128 ∧ b ≠ 0x25 := by
  have every : ∀ n < 256, isUnreserved (UInt8.ofNat n) = true →
      n < 128 ∧ UInt8.ofNat n ≠ 0x25 := by
    decide +kernel
  have bounds := every b.toNat b.toNat_lt
  rw [UInt8.ofNat_toNat] at bounds
  exact bounds unreserved

theorem decodeBytes_encodeOctet (b : UInt8) (rest : Bytes) :
    decodeBytes (Utf8.encode (encodeOctet b) ++ rest) = b :: decodeBytes rest := by
  by_cases unreserved : isUnreserved b = true
  · obtain ⟨ascii, plain⟩ := isUnreserved_lt unreserved
    have number : (Char.ofNat b.toNat).toNat = b.toNat := Utf8.toNat_ofNat_valid (by omega)
    rw [encodeOctet, if_pos unreserved, Utf8.encode_cons, Utf8.encode_nil,
      Utf8.utf8EncodeChar_ascii (by omega), number, UInt8.ofNat_toNat]
    exact decodeBytes_plain plain rest
  · have octet := b.toNat_lt
    have first := digit?_upperDigit (n := b.toNat / 16) (by omega)
    have second := digit?_upperDigit (n := b.toNat % 16) (by omega)
    have whole : UInt8.ofNat (b.toNat / 16) * 16 + UInt8.ofNat (b.toNat % 16) = b := by
      rw [← UInt8.toNat_inj]
      simp only [UInt8.toNat_add, UInt8.toNat_mul, UInt8.toNat_ofNat', UInt8.reduceToNat]
      omega
    rw [encodeOctet, if_neg unreserved, encode_upperOctet]
    simp only [List.cons_append, List.nil_append]
    rw [decodeBytes_escape first.2 second.2, whole]

/-- Octets that were encoded decode to themselves, and what follows them to what it decodes to
alone. -/
theorem decodeBytes_encodeBytes (bytes rest : Bytes) :
    decodeBytes (Utf8.encode (encodeBytes bytes) ++ rest) = bytes ++ decodeBytes rest := by
  induction bytes with
  | nil => rfl
  | cons b bytes ih =>
    rw [encodeBytes, List.flatMap_cons, Utf8.encode_append, List.append_assoc,
      decodeBytes_encodeOctet, ← encodeBytes, ih]
    rfl

/-- Octets have one written form each. -/
theorem encodeBytes_injective {bytes other : Bytes} (same : encodeBytes bytes = encodeBytes other) :
    bytes = other := by
  have decoded := decodeBytes_encodeBytes bytes []
  rw [same, decodeBytes_encodeBytes] at decoded
  exact (List.append_cancel_right decoded).symm

theorem encode_injective {s t : Text} (same : encode s = encode t) : s = t :=
  Utf8.encode_injective (encodeBytes_injective same)

/-- Text that was encoded decodes to its octets, and what follows it to what it decodes to alone. -/
theorem octets_encode_append (t rest : Text) :
    octets (encode t ++ rest) = Utf8.encode t ++ octets rest := by
  rw [octets, Utf8.encode_append]
  exact decodeBytes_encodeBytes (Utf8.encode t) (Utf8.encode rest)

@[simp] theorem octets_encode (t : Text) : octets (encode t) = Utf8.encode t := by
  simpa [octets, decodeBytes] using octets_encode_append t []

@[simp] theorem decode?_encode (t : Text) : decode? (encode t) = some t := by
  change Utf8.decode? (octets (encode t)) = some t
  rw [octets_encode, Utf8.decode?_encode]

theorem decode?_eq_some {t name : Text} : decode? t = some name ↔ octets t = Utf8.encode name :=
  Utf8.decode?_eq_some

/-- The written form of a component is that of the octets it decodes to just when these are the
octets of a text. -/
theorem encode_component_eq_iff {t : Text} :
    encode (component t) = encodeBytes (octets t) ↔ ∃ name, decode? t = some name := by
  cases decoded : decode? t with
  | some name =>
    refine iff_of_true ?_ ⟨name, rfl⟩
    rw [component, decoded, decode?_eq_some.mp decoded]
    rfl
  | none =>
    refine iff_of_false ?_ nofun
    intro same
    -- A component that is kept as it is would have to decode to itself, and so to a text.
    rw [component, decoded, Option.getD_none, encode] at same
    rw [decode?_eq_some.mpr (encodeBytes_injective same).symm] at decoded
    cases decoded

theorem component_of_decode? {t name : Text} (decoded : decode? t = some name) :
    component t = name := by
  rw [component, decoded]
  rfl

/-- Text that was encoded is read back, whatever it is. -/
@[simp] theorem component_encode (t : Text) : component (encode t) = t :=
  component_of_decode? (decode?_encode t)

/-- A component that no percent sign is left in is one of octets, as what does not decode is kept
with the escapes that it has. -/
theorem component_eq_iff {t name : Text} (plain : '%' ∉ name) :
    component t = name ↔ octets t = Utf8.encode name := by
  rw [← decode?_eq_some]
  refine ⟨fun same => ?_, component_of_decode?⟩
  cases decoded : decode? t with
  | some other => rw [← same, component, decoded, Option.getD_some]
  | none =>
    rw [component, decoded, Option.getD_none] at same
    rw [same, decode?_eq_some.mpr (octets_of_not_mem plain)] at decoded
    cases decoded

theorem eq_nil_of_decodeBytes {bytes : Bytes} (empty : decodeBytes bytes = []) : bytes = [] := by
  unfold decodeBytes at empty
  split at empty
  · split at empty
    · cases empty
    · cases empty
  · cases empty
  · rfl

theorem component_eq_nil_iff {t : Text} : component t = [] ↔ t = [] := by
  rw [component_eq_iff (by simp)]
  constructor
  · intro empty
    exact Utf8.encode_injective (eq_nil_of_decodeBytes empty)
  · rintro rfl
    rfl

/-! ## Names and values of queries -/

@[simp] theorem spaced_append (s t : Text) : spaced (s ++ t) = spaced s ++ spaced t :=
  List.map_append

theorem spaced_of_not_mem {t : Text} (absent : '+' ∉ t) : spaced t = t := by
  refine (List.map_congr_left ?_).trans (List.map_id t)
  intro c member
  have differs : c ≠ '+' := by
    rintro rfl
    exact absent member
  exact if_neg differs

/-- Encoded text has no plus sign, so that it means the same in a query. -/
@[simp] theorem spaced_encode (t : Text) : spaced (encode t) = encode t :=
  spaced_of_not_mem (not_mem_encode (by decide) t)

theorem queryOctets_of_not_mem {t : Text} (escape : '%' ∉ t) (plus : '+' ∉ t) :
    queryOctets t = Utf8.encode t := by
  rw [queryOctets, spaced_of_not_mem plus, octets_of_not_mem escape]

@[simp] theorem queryOctets_encode (t : Text) : queryOctets (encode t) = Utf8.encode t := by
  rw [queryOctets, spaced_encode, octets_encode]

theorem queryOctets_encode_append (t rest : Text) :
    queryOctets (encode t ++ rest) = Utf8.encode t ++ queryOctets rest := by
  rw [queryOctets, spaced_append, spaced_encode, octets_encode_append]
  rfl

end UploadInbox.Percent
