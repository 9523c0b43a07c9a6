import UploadInbox.Text.Utf8

/-!
# Octets and characters

Reading the octets of a text gives the text back, whatever follows them, and octets that read as a
text are the octets of that text: every text has one form in octets and no octets have two readings.
The octets below 128 stand for the characters of the same number and for nothing else.
-/
namespace UploadInbox.Utf8

open String (utf8EncodeChar)

@[simp] theorem encode_nil : encode [] = [] := rfl

@[simp] theorem encode_cons (c : Char) (t : Text) :
    encode (c :: t) = utf8EncodeChar c ++ encode t := rfl

@[simp] theorem encode_append (s t : Text) : encode (s ++ t) = encode s ++ encode t :=
  List.flatMap_append

/-! ## Characters by the number of their octets -/

theorem utf8EncodeChar_ascii {c : Char} (ascii : c.toNat < 128) :
    utf8EncodeChar c = [UInt8.ofNat c.toNat] := by
  have low : c.val.toNat ≤ 127 := Nat.le_of_lt_succ ascii
  simp only [utf8EncodeChar, if_pos low]
  rfl

theorem utf8EncodeChar_two {c : Char} (least : 128 ≤ c.toNat) (most : c.toNat < 2048) :
    utf8EncodeChar c =
      [UInt8.ofNat (192 + c.toNat / 64), UInt8.ofNat (128 + c.toNat % 64)] := by
  have wide : ¬ c.val.toNat ≤ 127 := Nat.not_le.mpr least
  have short : c.val.toNat ≤ 2047 := Nat.le_of_lt_succ most
  have first : c.toNat / 64 % 32 + 192 = 192 + c.toNat / 64 := by omega
  have second : c.toNat % 64 + 128 = 128 + c.toNat % 64 := by omega
  rw [← first, ← second]
  simp only [utf8EncodeChar, if_neg wide, if_pos short]
  rfl

theorem utf8EncodeChar_three {c : Char} (least : 2048 ≤ c.toNat) (most : c.toNat < 65536) :
    utf8EncodeChar c =
      [UInt8.ofNat (224 + c.toNat / 4096), UInt8.ofNat (128 + c.toNat / 64 % 64),
        UInt8.ofNat (128 + c.toNat % 64)] := by
  have wide : ¬ c.val.toNat ≤ 127 := fun low => by change c.toNat ≤ 127 at low; omega
  have wider : ¬ c.val.toNat ≤ 2047 := Nat.not_le.mpr least
  have short : c.val.toNat ≤ 65535 := Nat.le_of_lt_succ most
  have first : c.toNat / 4096 % 16 + 224 = 224 + c.toNat / 4096 := by omega
  have second : c.toNat / 64 % 64 + 128 = 128 + c.toNat / 64 % 64 := by omega
  have third : c.toNat % 64 + 128 = 128 + c.toNat % 64 := by omega
  rw [← first, ← second, ← third]
  simp only [utf8EncodeChar, if_neg wide, if_neg wider, if_pos short]
  rfl

theorem toNat_lt (c : Char) : c.toNat < 1114112 := by
  rcases c.valid with low | high
  · exact Nat.lt_trans low (by decide)
  · exact high.2

theorem utf8EncodeChar_four {c : Char} (least : 65536 ≤ c.toNat) :
    utf8EncodeChar c =
      [UInt8.ofNat (240 + c.toNat / 262144), UInt8.ofNat (128 + c.toNat / 4096 % 64),
        UInt8.ofNat (128 + c.toNat / 64 % 64), UInt8.ofNat (128 + c.toNat % 64)] := by
  have wide : ¬ c.val.toNat ≤ 127 := fun low => by change c.toNat ≤ 127 at low; omega
  have wider : ¬ c.val.toNat ≤ 2047 := fun low => by change c.toNat ≤ 2047 at low; omega
  have widest : ¬ c.val.toNat ≤ 65535 := Nat.not_le.mpr least
  have bound := toNat_lt c
  have first : c.toNat / 262144 % 8 + 240 = 240 + c.toNat / 262144 := by omega
  have second : c.toNat / 4096 % 64 + 128 = 128 + c.toNat / 4096 % 64 := by omega
  have third : c.toNat / 64 % 64 + 128 = 128 + c.toNat / 64 % 64 := by omega
  have fourth : c.toNat % 64 + 128 = 128 + c.toNat % 64 := by omega
  rw [← first, ← second, ← third, ← fourth]
  simp only [utf8EncodeChar, if_neg wide, if_neg wider, if_neg widest]
  rfl

/-- Every octet of a character beyond the first 128 is itself beyond them. -/
theorem le_of_mem_utf8EncodeChar {c : Char} {b : UInt8} (wide : 128 ≤ c.toNat)
    (member : b ∈ utf8EncodeChar c) : 128 ≤ b.toNat := by
  have high : ¬ c.val.toNat ≤ 127 := Nat.not_le.mpr wide
  simp only [utf8EncodeChar, if_neg high] at member
  split at member
  · simp only [List.mem_cons, List.not_mem_nil, or_false] at member
    rcases member with rfl | rfl <;> simp only [UInt8.toNat_ofNat'] <;> omega
  · split at member
    · simp only [List.mem_cons, List.not_mem_nil, or_false] at member
      rcases member with rfl | rfl | rfl <;> simp only [UInt8.toNat_ofNat'] <;> omega
    · simp only [List.mem_cons, List.not_mem_nil, or_false] at member
      rcases member with rfl | rfl | rfl | rfl <;> simp only [UInt8.toNat_ofNat'] <;> omega

/-- An octet below 128 of a text is the character of the same number. -/
theorem mem_of_mem_encode {t : Text} {b : UInt8} (member : b ∈ encode t) (low : b.toNat < 128) :
    Char.ofNat b.toNat ∈ t := by
  obtain ⟨c, inside, octet⟩ := List.mem_flatMap.mp member
  by_cases ascii : c.toNat < 128
  · rw [utf8EncodeChar_ascii ascii, List.mem_singleton] at octet
    have number : b.toNat = c.toNat := by
      rw [octet, UInt8.toNat_ofNat']
      omega
    rw [number, Char.ofNat_toNat]
    exact inside
  · have high := le_of_mem_utf8EncodeChar (Nat.le_of_not_lt ascii) octet
    omega

/-! ## What an octet begins -/

theorem lead_ascii {b : UInt8} (low : b.toNat < 128) :
    lead b = ([some (Char.ofNat b.toNat)], .idle) := by
  have small : b < 0x80 := UInt8.lt_iff_toNat_lt.mpr low
  rw [lead, if_pos small]

theorem lead_two {b : UInt8} (least : 194 ≤ b.toNat) (most : b.toNat < 224) :
    lead b = ([], .within (b.toNat - 192) 0 0x80 0xBF) := by
  simp only [lead, UInt8.lt_iff_toNat_lt, UInt8.reduceToNat]
  rw [if_neg (by omega), if_neg (by omega), if_pos (by omega)]

theorem lead_three {b : UInt8} (least : 224 ≤ b.toNat) (most : b.toNat < 240) :
    lead b = ([], .within (b.toNat - 224) 1 (if b.toNat = 224 then 0xA0 else 0x80)
      (if b.toNat = 237 then 0x9F else 0xBF)) := by
  simp only [lead, UInt8.lt_iff_toNat_lt, ← UInt8.toNat_inj, UInt8.reduceToNat]
  rw [if_neg (by omega), if_neg (by omega), if_neg (by omega)]
  by_cases first : b.toNat = 224
  · simp [first]
  · rw [if_neg first, if_neg first]
    by_cases surrogate : b.toNat = 237
    · simp [surrogate]
    · rw [if_neg surrogate, if_neg surrogate, if_pos most]

theorem lead_four {b : UInt8} (least : 240 ≤ b.toNat) (most : b.toNat ≤ 244) :
    lead b = ([], .within (b.toNat - 240) 2 (if b.toNat = 240 then 0x90 else 0x80)
      (if b.toNat = 244 then 0x8F else 0xBF)) := by
  simp only [lead, UInt8.lt_iff_toNat_lt, ← UInt8.toNat_inj, UInt8.reduceToNat]
  rw [if_neg (by omega), if_neg (by omega), if_neg (by omega), if_neg (by omega),
    if_neg (by omega), if_neg (by omega)]
  by_cases first : b.toNat = 240
  · simp [first]
  · rw [if_neg first, if_neg first]
    by_cases last : b.toNat = 244
    · simp [last]
    · rw [if_pos (by omega), if_neg last]

theorem lead_malformed {b : UInt8}
    (outside : 128 ≤ b.toNat ∧ b.toNat < 194 ∨ 244 < b.toNat) : lead b = ([none], .idle) := by
  simp only [lead, UInt8.lt_iff_toNat_lt, ← UInt8.toNat_inj, UInt8.reduceToNat]
  rcases outside with inside | above
  · rw [if_neg (by omega), if_pos (by omega)]
  · rw [if_neg (by omega), if_neg (by omega), if_neg (by omega), if_neg (by omega),
      if_neg (by omega), if_neg (by omega), if_neg (by omega), if_neg (by omega),
      if_neg (by omega)]

/-! ## Reading on -/

theorem scanFrom_cons (state : Pending) (b : UInt8) (rest : Bytes) :
    scanFrom state (b :: rest) = (step state b).1 ++ scanFrom (step state b).2 rest := by
  cases state <;> rfl

theorem scanFrom_lead {b : UInt8} {out : List (Option Char)} {next : Pending}
    (begins : lead b = (out, next)) (rest : Bytes) :
    scanFrom .idle (b :: rest) = out ++ scanFrom next rest := by
  rw [scanFrom_cons, step, begins]

theorem step_within {value missing : Nat} {low high b : UInt8} (least : low.toNat ≤ b.toNat)
    (most : b.toNat ≤ high.toNat) :
    step (.within value missing low high) b =
      match missing with
      | 0 => ([some (Char.ofNat (value * 64 + (b.toNat - 128)))], .idle)
      | n + 1 => ([], .within (value * 64 + (b.toNat - 128)) n 0x80 0xBF) := by
  have inside : low ≤ b ∧ b ≤ high :=
    ⟨UInt8.le_iff_toNat_le.mpr least, UInt8.le_iff_toNat_le.mpr most⟩
  exact if_pos inside

/-! ## Reading what was written -/

theorem toNat_octet {n : Nat} (octet : n < 256) : (UInt8.ofNat n).toNat = n :=
  UInt8.toNat_ofNat_of_lt' octet

/-- The last octet of a character. -/
theorem scanFrom_last {value n : Nat} {low high : UInt8} (octet : n < 256)
    (least : low.toNat ≤ n) (most : n ≤ high.toNat) (rest : Bytes) :
    scanFrom (.within value 0 low high) (UInt8.ofNat n :: rest) =
      some (Char.ofNat (value * 64 + (n - 128))) :: scanFrom .idle rest := by
  have number : (UInt8.ofNat n).toNat = n := toNat_octet octet
  rw [scanFrom_cons, step_within (by rwa [number]) (by rwa [number]), number]
  rfl

/-- An octet inside a character, after which more are to come. -/
theorem scanFrom_more {value missing n : Nat} {low high : UInt8} (octet : n < 256)
    (least : low.toNat ≤ n) (most : n ≤ high.toNat) (rest : Bytes) :
    scanFrom (.within value (missing + 1) low high) (UInt8.ofNat n :: rest) =
      scanFrom (.within (value * 64 + (n - 128)) missing 0x80 0xBF) rest := by
  have number : (UInt8.ofNat n).toNat = n := toNat_octet octet
  rw [scanFrom_cons, step_within (by rwa [number]) (by rwa [number]), number]
  rfl

theorem trail_bounds (n : Nat) :
    128 + n % 64 < 256 ∧ (0x80 : UInt8).toNat ≤ 128 + n % 64 ∧
      128 + n % 64 ≤ (0xBF : UInt8).toNat := by
  simp only [UInt8.reduceToNat]
  omega

theorem scanFrom_two {c : Char} (least : 128 ≤ c.toNat) (most : c.toNat < 2048) (rest : Bytes) :
    scanFrom .idle (utf8EncodeChar c ++ rest) = some c :: scanFrom .idle rest := by
  have number : (UInt8.ofNat (192 + c.toNat / 64)).toNat = 192 + c.toNat / 64 :=
    toNat_octet (by omega)
  have value : (192 + c.toNat / 64 - 192) * 64 + (128 + c.toNat % 64 - 128) = c.toNat := by omega
  obtain ⟨octet, low, high⟩ := trail_bounds c.toNat
  rw [utf8EncodeChar_two least most]
  simp only [List.cons_append, List.nil_append]
  rw [scanFrom_lead (lead_two (by omega) (by omega)), number, List.nil_append,
    scanFrom_last octet low high, value, Char.ofNat_toNat]

theorem scanFrom_three {c : Char} (least : 2048 ≤ c.toNat) (most : c.toNat < 65536)
    (rest : Bytes) :
    scanFrom .idle (utf8EncodeChar c ++ rest) = some c :: scanFrom .idle rest := by
  have surrogate : c.toNat < 55296 ∨ 57343 < c.toNat := c.valid.imp id And.left
  have number : (UInt8.ofNat (224 + c.toNat / 4096)).toNat = 224 + c.toNat / 4096 :=
    toNat_octet (by omega)
  have value : ((224 + c.toNat / 4096 - 224) * 64 + (128 + c.toNat / 64 % 64 - 128)) * 64
      + (128 + c.toNat % 64 - 128) = c.toNat := by omega
  -- The second octet keeps out what two octets could say and the surrogates.
  have low : (if 224 + c.toNat / 4096 = 224 then 0xA0 else 0x80 : UInt8).toNat ≤
      128 + c.toNat / 64 % 64 := by
    split <;> simp only [UInt8.reduceToNat] <;> omega
  have high : 128 + c.toNat / 64 % 64 ≤
      (if 224 + c.toNat / 4096 = 237 then 0x9F else 0xBF : UInt8).toNat := by
    split <;> simp only [UInt8.reduceToNat] <;> omega
  obtain ⟨octet, low', high'⟩ := trail_bounds c.toNat
  rw [utf8EncodeChar_three least most]
  simp only [List.cons_append, List.nil_append]
  rw [scanFrom_lead (lead_three (by omega) (by omega)), number, List.nil_append,
    scanFrom_more (by omega) low high, scanFrom_last octet low' high', value, Char.ofNat_toNat]

theorem scanFrom_four {c : Char} (least : 65536 ≤ c.toNat) (rest : Bytes) :
    scanFrom .idle (utf8EncodeChar c ++ rest) = some c :: scanFrom .idle rest := by
  have bound := toNat_lt c
  have number : (UInt8.ofNat (240 + c.toNat / 262144)).toNat = 240 + c.toNat / 262144 :=
    toNat_octet (by omega)
  have value : (((240 + c.toNat / 262144 - 240) * 64 + (128 + c.toNat / 4096 % 64 - 128)) * 64
      + (128 + c.toNat / 64 % 64 - 128)) * 64 + (128 + c.toNat % 64 - 128) = c.toNat := by omega
  -- The second octet keeps out what three octets could say and what no character has.
  have low : (if 240 + c.toNat / 262144 = 240 then 0x90 else 0x80 : UInt8).toNat ≤
      128 + c.toNat / 4096 % 64 := by
    split <;> simp only [UInt8.reduceToNat] <;> omega
  have high : 128 + c.toNat / 4096 % 64 ≤
      (if 240 + c.toNat / 262144 = 244 then 0x8F else 0xBF : UInt8).toNat := by
    split <;> simp only [UInt8.reduceToNat] <;> omega
  obtain ⟨octet, low', high'⟩ := trail_bounds (c.toNat / 64)
  obtain ⟨octet', low'', high''⟩ := trail_bounds c.toNat
  rw [utf8EncodeChar_four least]
  simp only [List.cons_append, List.nil_append]
  rw [scanFrom_lead (lead_four (by omega) (by omega)), number, List.nil_append,
    scanFrom_more (by omega) low high, scanFrom_more octet low' high',
    scanFrom_last octet' low'' high'', value, Char.ofNat_toNat]

/-- Reading begins anew after the octets of a character. -/
theorem scanFrom_utf8EncodeChar (c : Char) (rest : Bytes) :
    scanFrom .idle (utf8EncodeChar c ++ rest) = some c :: scanFrom .idle rest := by
  by_cases one : c.toNat < 128
  · have number : (UInt8.ofNat c.toNat).toNat = c.toNat := toNat_octet (by omega)
    rw [utf8EncodeChar_ascii one, List.singleton_append,
      scanFrom_lead (lead_ascii (by rwa [number])), number, Char.ofNat_toNat]
    rfl
  by_cases two : c.toNat < 2048
  · exact scanFrom_two (Nat.le_of_not_lt one) two rest
  by_cases three : c.toNat < 65536
  · exact scanFrom_three (Nat.le_of_not_lt two) three rest
  · exact scanFrom_four (Nat.le_of_not_lt three) rest

/-! ## Writing what was read -/

/-- Whatever the octets to come, they and those read so far are the octets of the character that is
read in the end. -/
def Completes : (missing value : Nat) → (low high : UInt8) → (read : Bytes) → Prop
  | 0, value, low, high, read => ∀ b : UInt8, low.toNat ≤ b.toNat → b.toNat ≤ high.toNat →
    utf8EncodeChar (Char.ofNat (value * 64 + (b.toNat - 128))) = read ++ [b]
  | missing + 1, value, low, high, read => ∀ b : UInt8, low.toNat ≤ b.toNat →
    b.toNat ≤ high.toNat → Completes missing (value * 64 + (b.toNat - 128)) 0x80 0xBF (read ++ [b])

theorem toNat_ofNat_valid {n : Nat} (valid : n < 55296 ∨ 57343 < n ∧ n < 1114112) :
    (Char.ofNat n).toNat = n := by
  have inside : n.isValidChar := valid
  rw [Char.ofNat, dif_pos inside]
  rfl

/-- Octets with the right numbers. -/
theorem ofNat_eq {n : Nat} {b : UInt8} (number : n = b.toNat) : UInt8.ofNat n = b := by
  rw [number, UInt8.ofNat_toNat]

theorem completes_two {b : UInt8} (least : 194 ≤ b.toNat) (most : b.toNat < 224) :
    Completes 0 (b.toNat - 192) 0x80 0xBF [b] := by
  intro second low high
  simp only [UInt8.reduceToNat] at low high
  have value := toNat_ofNat_valid (n := (b.toNat - 192) * 64 + (second.toNat - 128)) (by omega)
  rw [utf8EncodeChar_two (by omega) (by omega), value, ofNat_eq (b := b) (by omega),
    ofNat_eq (b := second) (by omega)]
  rfl

theorem completes_three {b : UInt8} (least : 224 ≤ b.toNat) (most : b.toNat < 240) :
    Completes 1 (b.toNat - 224) (if b.toNat = 224 then 0xA0 else 0x80)
      (if b.toNat = 237 then 0x9F else 0xBF) [b] := by
  intro second low high third low' high'
  simp only [UInt8.reduceToNat] at low' high'
  have least' : 128 ≤ second.toNat ∧ (b.toNat = 224 → 160 ≤ second.toNat) := by
    split at low <;> simp only [UInt8.reduceToNat] at low <;> omega
  have most' : second.toNat ≤ 191 ∧ (b.toNat = 237 → second.toNat ≤ 159) := by
    split at high <;> simp only [UInt8.reduceToNat] at high <;> omega
  have value := toNat_ofNat_valid
    (n := ((b.toNat - 224) * 64 + (second.toNat - 128)) * 64 + (third.toNat - 128)) (by omega)
  rw [utf8EncodeChar_three (by omega) (by omega), value, ofNat_eq (b := b) (by omega),
    ofNat_eq (b := second) (by omega), ofNat_eq (b := third) (by omega)]
  rfl

theorem completes_four {b : UInt8} (least : 240 ≤ b.toNat) (most : b.toNat ≤ 244) :
    Completes 2 (b.toNat - 240) (if b.toNat = 240 then 0x90 else 0x80)
      (if b.toNat = 244 then 0x8F else 0xBF) [b] := by
  intro second low high third low' high' fourth low'' high''
  simp only [UInt8.reduceToNat] at low' high' low'' high''
  have least' : 128 ≤ second.toNat ∧ (b.toNat = 240 → 144 ≤ second.toNat) := by
    split at low <;> simp only [UInt8.reduceToNat] at low <;> omega
  have most' : second.toNat ≤ 191 ∧ (b.toNat = 244 → second.toNat ≤ 143) := by
    split at high <;> simp only [UInt8.reduceToNat] at high <;> omega
  have value := toNat_ofNat_valid
    (n := (((b.toNat - 240) * 64 + (second.toNat - 128)) * 64 + (third.toNat - 128)) * 64
      + (fourth.toNat - 128)) (by omega)
  rw [utf8EncodeChar_four (by omega), value, ofNat_eq (b := b) (by omega),
    ofNat_eq (b := second) (by omega), ofNat_eq (b := third) (by omega),
    ofNat_eq (b := fourth) (by omega)]
  rfl

/-- What has been read of the octets `read` when a state is reached. -/
def Reached : Pending → Bytes → Prop
  | .idle, read => read = []
  | .within value missing low high, read => Completes missing value low high read

/-- The first octet of a character is a character, begins one, or is refused. -/
theorem lead_spec (b : UInt8) :
    (∃ c, lead b = ([some c], .idle) ∧ utf8EncodeChar c = [b]) ∨
    (lead b).1 = [none] ∨
    (lead b).1 = [] ∧ Reached (lead b).2 [b] := by
  by_cases one : b.toNat < 128
  · refine .inl ⟨_, lead_ascii one, ?_⟩
    have value := toNat_ofNat_valid (n := b.toNat) (by omega)
    rw [utf8EncodeChar_ascii (by omega), value, UInt8.ofNat_toNat]
  by_cases bad : b.toNat < 194
  · rw [lead_malformed (by omega)]
    exact .inr (.inl rfl)
  by_cases two : b.toNat < 224
  · rw [lead_two (by omega) two]
    exact .inr (.inr ⟨rfl, completes_two (by omega) two⟩)
  by_cases three : b.toNat < 240
  · rw [lead_three (by omega) three]
    exact .inr (.inr ⟨rfl, completes_three (by omega) three⟩)
  by_cases four : b.toNat ≤ 244
  · rw [lead_four (by omega) four]
    exact .inr (.inr ⟨rfl, completes_four (by omega) four⟩)
  · rw [lead_malformed (by omega)]
    exact .inr (.inl rfl)

theorem allSome_some_eq {c : Char} {rest : List (Option Char)} {t : Text}
    (all : allSome (some c :: rest) = some t) : ∃ t', allSome rest = some t' ∧ t = c :: t' := by
  obtain ⟨t', inner, whole⟩ := Option.map_eq_some_iff.mp all
  exact ⟨t', inner, whole.symm⟩

/-- Octets that read as a text are the octets of that text, those read before included. -/
theorem encode_of_allSome_scanFrom (bytes : Bytes) :
    ∀ (state : Pending) {read : Bytes} {t : Text}, Reached state read →
      allSome (scanFrom state bytes) = some t → encode t = read ++ bytes := by
  -- The state and what was read before change from octet to octet, so both stay general.
  induction bytes with
  | nil =>
    intro state read t reached all
    cases state with
    | idle =>
      cases all
      rw [show read = [] from reached]
      rfl
    | within value missing low high => cases all
  | cons b rest ih =>
    intro state read t reached all
    rw [scanFrom_cons] at all
    cases state with
    | idle =>
      rw [show read = [] from reached, List.nil_append]
      rw [step] at all
      rcases lead_spec b with ⟨c, begins, octets⟩ | refused | ⟨nothing, reached⟩
      · rw [begins] at all
        obtain ⟨t', inner, rfl⟩ := allSome_some_eq all
        rw [encode_cons, octets, ih .idle rfl inner]
        rfl
      · rw [refused] at all
        cases all
      · rw [nothing] at all
        exact ih _ reached all
    | within value missing low high =>
      by_cases inside : low.toNat ≤ b.toNat ∧ b.toNat ≤ high.toNat
      · rw [step_within inside.1 inside.2] at all
        cases missing with
        | zero =>
          obtain ⟨t', inner, rfl⟩ := allSome_some_eq all
          rw [encode_cons, ih .idle rfl inner, reached b inside.1 inside.2,
            List.append_assoc]
          rfl
        | succ missing =>
          rw [ih (.within _ _ _ _) (reached b inside.1 inside.2) all, List.append_assoc]
          rfl
      · have outside : ¬ (low ≤ b ∧ b ≤ high) := by
          rwa [UInt8.le_iff_toNat_le, UInt8.le_iff_toNat_le]
        rw [step, if_neg outside] at all
        cases all

/-- Reading goes on behind the octets of a text as if nothing stood before. -/
theorem scan_encode_append (t : Text) (bytes : Bytes) :
    scan (encode t ++ bytes) = t.map some ++ scan bytes := by
  induction t with
  | nil => rfl
  | cons c rest ih =>
    rw [encode_cons, List.append_assoc, scan, scanFrom_utf8EncodeChar, ← scan, ih]
    rfl

theorem allSome_map_some (t : Text) : allSome (t.map some) = some t := by
  induction t with
  | nil => rfl
  | cons c rest ih => rw [List.map_cons, allSome, ih]; rfl

@[simp] theorem decode?_encode (t : Text) : decode? (encode t) = some t := by
  have whole := scan_encode_append t []
  rw [List.append_nil] at whole
  rw [decode?, whole, show scan [] = [] from rfl, List.append_nil, allSome_map_some]

theorem encode_of_decode? {bytes : Bytes} {t : Text} (text : decode? bytes = some t) :
    encode t = bytes := encode_of_allSome_scanFrom bytes .idle rfl text

/-- A text and well-formed octets determine each other. -/
theorem decode?_eq_some {bytes : Bytes} {t : Text} : decode? bytes = some t ↔ bytes = encode t := by
  constructor
  · intro text
    exact (encode_of_decode? text).symm
  · rintro rfl
    exact decode?_encode t

theorem encode_injective {s t : Text} (same : encode s = encode t) : s = t := by
  have text := decode?_encode s
  rw [same, decode?_encode] at text
  exact (Option.some.inj text).symm

/-- A text begins with another when its octets do. -/
theorem isPrefix_of_encode {s t : Text} (start : encode s <+: encode t) : s <+: t := by
  obtain ⟨rest, whole⟩ := start
  have parts := scan_encode_append s rest
  have all := scan_encode_append t []
  rw [whole] at parts
  rw [List.append_nil, parts, show scan [] = [] from rfl, List.append_nil] at all
  exact (List.prefix_map_iff_of_injective fun _ _ => Option.some.inj).mp ⟨scan rest, all⟩

end UploadInbox.Utf8
