import UploadInbox.Json.Reader
import UploadInbox.Proofs.Text.Decimal

/-!
# Values read back from their text

The written form of a value is read as that value, whatever follows it, if the value is one that its
text tells: numbers below zero in range and not zero, and strings of whole characters. Every
character of a string comes back, the ones that are escaped among them.
-/
namespace UploadInbox.Json

/-! ## Strings -/

theorem value?_digit {n : Nat} (small : n < 16) : Hex.value? (Hex.digit n) = some n := by
  have every : ∀ n < 16, Hex.value? (Hex.digit n) = some n := by decide
  exact every n small

theorem codePoints_escape {letter : Char} {point : Nat} (meant : escape? letter = some point)
    (other : letter ≠ 'u') (t : Text) :
    codePoints ('\\' :: letter :: t) =
      (codePoints t).map fun (points, rest) => (point :: points, rest) := by
  rw [codePoints]
  · simp only [meant, Option.bind_eq_bind, Option.bind_some, Option.map_eq_bind]
    rfl
  · simp [other]

theorem codePoints_escapedPoint {n : Nat} (small : n < 32) (t : Text) :
    codePoints (['\\', 'u', '0', '0', Hex.digit (n / 16), Hex.digit (n % 16)] ++ t) =
      (codePoints t).map fun (points, rest) => (n :: points, rest) := by
  have zero : Hex.value? '0' = some 0 := by decide
  have high : Hex.value? (Hex.digit (n / 16)) = some (n / 16) := value?_digit (by omega)
  have low : Hex.value? (Hex.digit (n % 16)) = some (n % 16) := value?_digit (by omega)
  have point : n / 16 * 16 + n % 16 = n := by omega
  simp only [List.cons_append, List.nil_append, codePoints, fourDigits?, zero, high, low,
    Option.bind_eq_bind, Option.bind_some, Option.map_eq_bind, Nat.zero_mul, Nat.zero_add, point]
  rfl

theorem codePoints_plain {c : Char} (quote : c ≠ '"') (backslash : c ≠ '\\')
    (visible : ¬ c.toNat < 32) (t : Text) :
    codePoints (c :: t) =
      (codePoints t).map fun (points, rest) => (c.toNat :: points, rest) := by
  rw [codePoints]
  · simp only [visible, backslash, or_self, if_false, Option.bind_eq_bind, Option.map_eq_bind]
    rfl
  · exact quote
  · simp [backslash]
  · simp [backslash]

/-- One character of a string is read as its code point, however it is written. -/
theorem codePoints_quotedChar (c : Char) (t : Text) :
    codePoints (quotedChar c ++ t) =
      (codePoints t).map fun (points, rest) => (c.toNat :: points, rest) := by
  unfold quotedChar
  split
  next quote => subst quote; exact codePoints_escape rfl (by decide) t
  split
  next backslash => subst backslash; exact codePoints_escape rfl (by decide) t
  split
  next feed => subst feed; exact codePoints_escape rfl (by decide) t
  split
  next back => subst back; exact codePoints_escape rfl (by decide) t
  split
  next tab => subst tab; exact codePoints_escape rfl (by decide) t
  split
  next point => rw [point]; exact codePoints_escape rfl (by decide) t
  split
  next point => rw [point]; exact codePoints_escape rfl (by decide) t
  split
  next control => exact codePoints_escapedPoint control t
  next quote backslash _ _ _ _ _ visible => exact codePoints_plain quote backslash visible t

theorem codePoints_quoted (t rest : Text) :
    codePoints (t.flatMap quotedChar ++ '"' :: rest) = some (t.map Char.toNat, rest) := by
  induction t with
  | nil => rfl
  | cons c t ih =>
    rw [List.flatMap_cons, List.append_assoc, codePoints_quotedChar, ih]
    rfl

/-- No character is half of one, so that code points of characters are never paired up. -/
theorem pairUp_map_toNat (t : Text) : pairUp (t.map Char.toNat) = some t := by
  have whole (c : Char) : ¬ (0xD800 ≤ c.toNat ∧ c.toNat < 0xE000) := by
    have valid : c.toNat < 0xD800 ∨ (0xDFFF < c.toNat ∧ c.toNat < 0x110000) := c.valid
    omega
  induction t with
  | nil => rfl
  | cons c t ih =>
    cases t with
    | nil => simp [pairUp, whole c]
    | cons d t =>
      rw [List.map_cons] at ih
      rw [List.map_cons, List.map_cons, pairUp, if_neg (whole c), ih, Char.ofNat_toNat]
      rfl

/-- A string is read back from behind its opening quote. -/
theorem string?_quoted (t rest : Text) :
    string? (t.flatMap quotedChar ++ '"' :: rest) = some (string t, rest) := by
  simp [string?, codePoints_quoted, pairUp_map_toNat]

/-! ## Numbers -/

/-- A text that cannot go on with a number in front of it. -/
def EndsNumber (rest : Text) : Prop :=
  ∀ c ∈ rest.head?, c.isDigit = false ∧ c ≠ '.' ∧ c ≠ 'e' ∧ c ≠ 'E'

theorem endsNumber_cons {c : Char} (rest : Text)
    (ends : c.isDigit = false ∧ c ≠ '.' ∧ c ≠ 'e' ∧ c ≠ 'E') : EndsNumber (c :: rest) := by
  intro d head
  rw [List.head?_cons, Option.mem_some_iff] at head
  exact head ▸ ends

theorem digits_append {number rest : Text} (digit : ∀ c ∈ number, c.isDigit = true)
    (ends : ∀ c ∈ rest.head?, c.isDigit = false) : digits (number ++ rest) = number := by
  rw [digits, List.takeWhile_append_of_pos digit]
  cases rest with
  | nil => simp
  | cons c rest => simp [ends c rfl]

theorem digits_ofNat_append {rest : Text} (n : Nat) (ends : ∀ c ∈ rest.head?, c.isDigit = false) :
    digits (Decimal.ofNat n ++ rest) = Decimal.ofNat n :=
  digits_append (fun _ => Decimal.isDigit_of_mem_ofNat) ends

/-- A number begins with a digit. -/
theorem exists_ofNat_eq (n : Nat) :
    ∃ c more, Decimal.ofNat n = c :: more ∧ c.isDigit = true := by
  cases written : Decimal.ofNat n with
  | nil => exact absurd written Nat.toDigits_ne_nil
  | cons c more =>
    exact ⟨c, more, rfl, Decimal.isDigit_of_mem_ofNat (n := n) (written ▸ List.mem_cons_self)⟩

/-- Only zero is written with a zero in front. -/
theorem head_ofNat {n : Nat} (positive : 0 < n) : (Decimal.ofNat n).head? ≠ some '0' := by
  induction n using Nat.strongRecOn with
  | ind n ih =>
    rw [Decimal.ofNat, Nat.toDigits_eq_if (by decide)]
    split
    next small =>
      have every : ∀ n < 10, 0 < n → [Nat.digitChar n].head? ≠ some '0' := by decide
      exact every n small positive
    next large =>
      have shorter := ih (n / 10) (by omega) (by omega)
      rw [Decimal.ofNat] at shorter
      rw [List.head?_append]
      cases first : (Nat.toDigits 10 (n / 10)).head? with
      | none => simp [Nat.toDigits_ne_nil] at first
      | some c =>
        rw [first] at shorter
        exact shorter

theorem fraction?_of_ends {rest : Text} (ends : EndsNumber rest) : fraction? rest = some ([], rest) := by
  cases rest with
  | nil => rfl
  | cons c rest =>
    rw [fraction?]
    intro other same
    cases same
    exact (ends '.' rfl).2.1 rfl

theorem exponent?_of_ends {rest : Text} (ends : EndsNumber rest) :
    exponent? rest = some (none, rest) := by
  cases rest with
  | nil => rfl
  | cons c rest =>
    obtain ⟨-, -, lower, upper⟩ := ends c rfl
    simp [exponent?, lower, upper]

/-- What a number in digits is read as, with or without a sign, is up to what follows its digits. -/
theorem number?_digits (below : Bool) (n : Nat) (tail : Text)
    (ends : ∀ c ∈ tail.head?, c.isDigit = false) :
    number? ((if below then ['-'] else []) ++ (Decimal.ofNat n ++ tail)) =
      (fraction? tail).bind fun (part, rest) => (exponent? rest).map fun (exponent, rest) =>
        (ofDigits below (Decimal.ofNat n) part exponent, rest) := by
  have whole := digits_ofNat_append n ends
  have filled : (Decimal.ofNat n).isEmpty = false := by
    rw [List.isEmpty_eq_false_iff]
    exact Nat.toDigits_ne_nil
  have single : (1 < (Decimal.ofNat n).length && (Decimal.ofNat n).head? == some '0') = false := by
    rcases Nat.eq_zero_or_pos n with rfl | positive
    · rfl
    · simp [head_ofNat positive]
  have unsigned : ∀ rest, Decimal.ofNat n ++ tail ≠ '-' :: rest := by
    obtain ⟨c, more, written, digit⟩ := exists_ofNat_eq n
    rintro rest same
    rw [written] at same
    cases same
    exact absurd digit (by decide)
  cases below with
  | true =>
    simp only [number?, if_pos, List.cons_append, List.nil_append, whole, filled, single,
      List.drop_left, Option.map_eq_bind]
    rfl
  | false =>
    have bare : (if false = true then ['-'] else ([] : Text)) ++ (Decimal.ofNat n ++ tail) =
        Decimal.ofNat n ++ tail := rfl
    rw [bare]
    unfold number?
    split
    next below rest cut =>
      split at cut
      next other same => exact absurd same (unsigned other)
      next =>
        cases cut
        simp only [whole, filled, single, List.drop_left, Option.map_eq_bind]
        rfl

theorem number?_natural (n : UInt64) {rest : Text} (ends : EndsNumber rest) :
    number? (Decimal.ofNat n.toNat ++ rest) = some (natural n, rest) := by
  have read := number?_digits false n.toNat rest fun c first => (ends c first).1
  rw [fraction?_of_ends ends] at read
  simp only [Option.bind_some] at read
  rw [exponent?_of_ends ends] at read
  have fits : n.toNat < UInt64.size := n.toNat_lt
  simpa [ofDigits, fits] using read

theorem number?_negative {n : Nat} (positive : 0 < n) (fits : n ≤ 0x8000000000000000) {rest : Text}
    (ends : EndsNumber rest) :
    number? ('-' :: (Decimal.ofNat n ++ rest)) = some (negative n, rest) := by
  have read := number?_digits true n rest fun c first => (ends c first).1
  rw [fraction?_of_ends ends] at read
  simp only [Option.bind_some] at read
  rw [exponent?_of_ends ends] at read
  have other : n ≠ 0 := by omega
  simpa [ofDigits, fits, other] using read

theorem exponent?_ofInt (exponent : Int) {rest : Text} (ends : EndsNumber rest) :
    exponent? ('e' :: (Decimal.ofInt exponent ++ rest)) = some (some exponent, rest) := by
  have stop : ∀ c ∈ rest.head?, c.isDigit = false := fun c first => (ends c first).1
  cases exponent with
  | ofNat n =>
    obtain ⟨c, more, written, digit⟩ := exists_ofNat_eq n
    have plus : c ≠ '+' := by
      rintro rfl
      exact absurd digit (by decide)
    have minus : c ≠ '-' := by
      rintro rfl
      exact absurd digit (by decide)
    have whole := digits_ofNat_append n stop
    have read := Decimal.read?_ofNat n
    rw [Decimal.ofInt]
    rw [written] at whole read ⊢
    rw [List.cons_append] at whole ⊢
    simp [exponent?, plus, minus, whole, read]
  | negSucc n =>
    simp [exponent?, Decimal.ofInt, digits_ofNat_append (n + 1) stop, Int.negSucc_eq]

theorem number?_decimal (below : Bool) (n : Nat) (exponent : Int) {rest : Text}
    (ends : EndsNumber rest) :
    number? ((if below then ['-'] else []) ++
      (Decimal.ofNat n ++ 'e' :: (Decimal.ofInt exponent ++ rest))) =
        some (decimal below n exponent, rest) := by
  rw [number?_digits below n _ (by simp)]
  have flat : fraction? ('e' :: (Decimal.ofInt exponent ++ rest)) =
      some ([], 'e' :: (Decimal.ofInt exponent ++ rest)) := by
    rw [fraction?]
    simp
  rw [flat]
  simp only [Option.bind_some]
  rw [exponent?_ofInt exponent ends]
  simp [ofDigits]

/-! ## Values -/

mutual

/-- Whether a value is told by its written form. -/
def isTold : Json → Bool
  | negative n => 0 < n && n ≤ 0x8000000000000000
  | unpaired => false
  | array items => toldItems items
  | object members => toldMembers members
  | _ => true

def toldItems : List Json → Bool
  | [] => true
  | item :: items => isTold item && toldItems items

def toldMembers : List (Text × Json) → Bool
  | [] => true
  | (_, value) :: members => isTold value && toldMembers members

end

/-- Whether a value can begin with a character. -/
def isFirst (c : Char) : Bool :=
  c.isDigit || c.toNat = 0x7B || "ntf-[\"".toList.contains c

theorem exists_render_eq (v : Json) : ∃ c rest, render v = c :: rest ∧ isFirst c = true := by
  have digits (n : Nat) (tail : Text) :
      ∃ c rest, Decimal.ofNat n ++ tail = c :: rest ∧ isFirst c = true := by
    obtain ⟨c, more, written, digit⟩ := exists_ofNat_eq n
    exact ⟨c, more ++ tail, by rw [written]; rfl, by simp [isFirst, digit]⟩
  cases v with
  | null => exact ⟨_, _, rfl, by decide⟩
  | bool value =>
    cases value with
    | true => exact ⟨_, _, rfl, by decide⟩
    | false => exact ⟨_, _, rfl, by decide⟩
  | natural n => simpa [render] using digits n.toNat []
  | negative n => exact ⟨_, _, rfl, by decide⟩
  | decimal below n exponent =>
    cases below with
    | true => exact ⟨_, _, rfl, by decide⟩
    | false => simpa [render] using digits n ('e' :: Decimal.ofInt exponent)
  | string t => exact ⟨_, _, rfl, by decide⟩
  | unpaired => exact ⟨_, _, rfl, by decide⟩
  | array items => exact ⟨_, _, rfl, by decide⟩
  | object members => exact ⟨_, _, rfl, by decide⟩

theorem exists_renderItems_eq (item : Json) (items : List Json) :
    ∃ c rest, renderItems (item :: items) = c :: rest ∧ isFirst c = true := by
  obtain ⟨c, rest, written, first⟩ := exists_render_eq item
  cases items with
  | nil => exact ⟨c, rest, by rw [renderItems, written], first⟩
  | cons next items =>
    refine ⟨c, rest ++ ',' :: renderItems (next :: items), ?_, first⟩
    rw [renderItems, written]
    · rfl
    · simp

theorem exists_renderMembers_eq (member : Text × Json) (members : List (Text × Json)) :
    ∃ rest, renderMembers (member :: members) = '"' :: rest := by
  obtain ⟨name, value⟩ := member
  cases members with
  | nil => exact ⟨_, rfl⟩
  | cons next members => exact ⟨_, rfl⟩

theorem skipBlanks_of_isFirst {c : Char} (first : isFirst c = true) (rest : Text) :
    skipBlanks (c :: rest) = c :: rest := by
  have visible : (c = ' ' || c = '\n' || c = '\r' || c = '\t') = false := by
    simp only [Bool.or_eq_false_iff, decide_eq_false_iff_not]
    refine ⟨⟨⟨?_, ?_⟩, ?_⟩, ?_⟩
    all_goals
      rintro rfl
      exact absurd first (by decide)
  simp [skipBlanks, visible]

theorem value?_number {c : Char} (number : c.isDigit = true ∨ c = '-') (fuel : Nat) (rest : Text) :
    value? (fuel + 1) (c :: rest) = number? (c :: rest) := by
  have first : isFirst c = true := by
    rcases number with digit | rfl
    · simp [isFirst, digit]
    · decide
  have other {mark : Char} (letter : mark.isDigit = false) (unsigned : mark ≠ '-') : c ≠ mark := by
    rintro rfl
    rcases number with digit | sign
    · rw [digit] at letter
      cases letter
    · exact unsigned sign
  have brace : c.toNat ≠ 0x7B := by
    intro same
    have closed : c = Char.ofNat 0x7B := by rw [← same, Char.ofNat_toNat]
    exact other (by decide) (by decide) closed
  rw [value?, skipBlanks_of_isFirst first]
  split
  next same => exact absurd (List.cons.inj same).1 (other (by decide) (by decide))
  next same => exact absurd (List.cons.inj same).1 (other (by decide) (by decide))
  next same => exact absurd (List.cons.inj same).1 (other (by decide) (by decide))
  next same => exact absurd (List.cons.inj same).1 (other (by decide) (by decide))
  next same => exact absurd (List.cons.inj same).1 (other (by decide) (by decide))
  next same =>
    cases same
    exact if_neg brace
  next same => cases same

theorem value?_array {c : Char} (first : isFirst c = true) (fuel : Nat) (rest : Text) :
    value? (fuel + 1) ('[' :: c :: rest) =
      (items? fuel (c :: rest)).map fun (items, rest) => (array items, rest) := by
  have other : c ≠ ']' := by
    rintro rfl
    exact absurd first (by decide)
  have opened : skipBlanks ('[' :: c :: rest) = '[' :: c :: rest := rfl
  rw [value?, opened]
  simp only
  rw [skipBlanks_of_isFirst first]
  split
  next same => exact absurd (List.cons.inj same).1 other
  next => rfl

theorem value?_object (fuel : Nat) (rest : Text) :
    value? (fuel + 1) (Char.ofNat 0x7B :: '"' :: rest) =
      (members? fuel ('"' :: rest)).map fun (members, rest) => (object members, rest) := rfl

theorem items?_last {fuel : Nat} {text rest : Text} {item : Json}
    (read : value? fuel text = some (item, ']' :: rest)) :
    items? (fuel + 1) text = some ([item], rest) := by
  have closed : skipBlanks (']' :: rest) = ']' :: rest := rfl
  rw [items?, read]
  simp only [closed]

theorem items?_next {fuel : Nat} {text more rest : Text} {item : Json} {items : List Json}
    (read : value? fuel text = some (item, ',' :: more))
    (others : items? fuel more = some (items, rest)) :
    items? (fuel + 1) text = some (item :: items, rest) := by
  have comma : skipBlanks (',' :: more) = ',' :: more := rfl
  rw [items?, read]
  simp only [comma, others]
  rfl

theorem members?_last {fuel : Nat} {text rest : Text} {name : Text} {value : Json}
    (read : value? fuel text = some (value, Char.ofNat 0x7D :: rest)) :
    members? (fuel + 1) (quoted name ++ ':' :: text) = some ([(name, value)], rest) := by
  have opened : skipBlanks (quoted name ++ ':' :: text) =
      '"' :: (name.flatMap quotedChar ++ '"' :: ':' :: text) := by
    simp [skipBlanks, quoted]
  have colon : skipBlanks (':' :: text) = ':' :: text := rfl
  have closed : skipBlanks (Char.ofNat 0x7D :: rest) = Char.ofNat 0x7D :: rest := rfl
  rw [members?, opened]
  simp only [string?_quoted, colon, read, closed]
  rfl

theorem members?_next {fuel : Nat} {text more rest : Text} {name : Text} {value : Json}
    {members : List (Text × Json)} (read : value? fuel text = some (value, ',' :: more))
    (others : members? fuel more = some (members, rest)) :
    members? (fuel + 1) (quoted name ++ ':' :: text) = some ((name, value) :: members, rest) := by
  have opened : skipBlanks (quoted name ++ ':' :: text) =
      '"' :: (name.flatMap quotedChar ++ '"' :: ':' :: text) := by
    simp [skipBlanks, quoted]
  have colon : skipBlanks (':' :: text) = ':' :: text := rfl
  have comma : skipBlanks (',' :: more) = ',' :: more := rfl
  rw [members?, opened]
  simp only [string?_quoted, colon, read, comma, others]
  rfl

mutual

/-- A value that is told by its written form is read from it, whatever follows, if that does not go
on with a number. -/
theorem value?_render : (v : Json) → (fuel : Nat) → (rest : Text) → isTold v = true →
    EndsNumber rest → 2 * (render v).length ≤ fuel →
    value? fuel (render v ++ rest) = some (v, rest)
  | v, 0, rest, told, ends, enough => by
    obtain ⟨c, more, written, -⟩ := exists_render_eq v
    rw [written] at enough
    simp at enough
  | null, fuel + 1, rest, told, ends, enough => rfl
  | bool true, fuel + 1, rest, told, ends, enough => rfl
  | bool false, fuel + 1, rest, told, ends, enough => rfl
  | natural n, fuel + 1, rest, told, ends, enough => by
    have read := number?_natural n ends
    obtain ⟨c, more, written, digit⟩ := exists_ofNat_eq n.toNat
    rw [render]
    rw [written] at read ⊢
    rw [List.cons_append, value?_number (.inl digit)]
    exact read
  | negative n, fuel + 1, rest, told, ends, enough => by
    simp only [isTold, Bool.and_eq_true, decide_eq_true_eq] at told
    rw [render, List.cons_append, value?_number (.inr rfl)]
    exact number?_negative told.1 told.2 ends
  | decimal true n exponent, fuel + 1, rest, told, ends, enough => by
    have read := number?_decimal true n exponent ends
    have written : render (decimal true n exponent) ++ rest =
        '-' :: (Decimal.ofNat n ++ 'e' :: (Decimal.ofInt exponent ++ rest)) := by
      simp [render]
    rw [written, value?_number (.inr rfl)]
    exact read
  | decimal false n exponent, fuel + 1, rest, told, ends, enough => by
    have read := number?_decimal false n exponent ends
    obtain ⟨c, more, digits, digit⟩ := exists_ofNat_eq n
    have written : render (decimal false n exponent) ++ rest =
        c :: (more ++ 'e' :: (Decimal.ofInt exponent ++ rest)) := by
      simp [render, digits]
    rw [digits] at read
    rw [written, value?_number (.inl digit)]
    exact read
  | string t, fuel + 1, rest, told, ends, enough => by
    have opened : render (string t) ++ rest = '"' :: (t.flatMap quotedChar ++ '"' :: rest) := by
      simp [render, quoted]
    rw [opened]
    exact string?_quoted t rest
  | array [], fuel + 1, rest, told, ends, enough => rfl
  | array (item :: items), fuel + 1, rest, told, ends, enough => by
    have length : (render (array (item :: items))).length =
        (renderItems (item :: items)).length + 2 := by
      simp [render]
    have read := items?_renderItems (item :: items) fuel rest (by simp) told (by omega)
    obtain ⟨c, more, written, first⟩ := exists_renderItems_eq item items
    have opened : render (array (item :: items)) ++ rest = '[' :: c :: (more ++ ']' :: rest) := by
      simp [render, written]
    rw [written, List.cons_append] at read
    rw [opened, value?_array first, read]
    rfl
  | object [], fuel + 1, rest, told, ends, enough => rfl
  | object (member :: members), fuel + 1, rest, told, ends, enough => by
    have length : (render (object (member :: members))).length =
        (renderMembers (member :: members)).length + 2 := by
      simp [render]
    have read := members?_renderMembers (member :: members) fuel rest (by simp) told (by omega)
    obtain ⟨more, written⟩ := exists_renderMembers_eq member members
    have opened : render (object (member :: members)) ++ rest =
        Char.ofNat 0x7B :: '"' :: (more ++ Char.ofNat 0x7D :: rest) := by
      simp [render, written]
    rw [written, List.cons_append] at read
    rw [opened, value?_object, read]
    rfl

/-- The items of an array are read up to its end. -/
theorem items?_renderItems : (items : List Json) → (fuel : Nat) → (rest : Text) → items ≠ [] →
    toldItems items = true → 2 * (renderItems items).length + 1 ≤ fuel →
    items? fuel (renderItems items ++ ']' :: rest) = some (items, rest)
  | [], fuel, rest, filled, told, enough => absurd rfl filled
  | items, 0, rest, filled, told, enough => by omega
  | [item], fuel + 1, rest, filled, told, enough => by
    simp only [toldItems, Bool.and_true] at told
    simp only [renderItems] at enough ⊢
    apply items?_last
    exact value?_render item fuel _ told (endsNumber_cons rest (by decide)) (by omega)
  | item :: next :: items, fuel + 1, rest, filled, told, enough => by
    rw [toldItems, Bool.and_eq_true] at told
    simp only [renderItems, List.length_append, List.length_cons] at enough
    rw [renderItems, List.append_assoc, List.cons_append]
    · apply items?_next
      · exact value?_render item fuel _ told.1 (endsNumber_cons _ (by decide)) (by omega)
      · exact items?_renderItems (next :: items) fuel rest (by simp) told.2 (by omega)
    · simp

/-- The members of an object are read up to its end. -/
theorem members?_renderMembers : (members : List (Text × Json)) → (fuel : Nat) → (rest : Text) →
    members ≠ [] → toldMembers members = true → 2 * (renderMembers members).length + 1 ≤ fuel →
    members? fuel (renderMembers members ++ Char.ofNat 0x7D :: rest) = some (members, rest)
  | [], fuel, rest, filled, told, enough => absurd rfl filled
  | members, 0, rest, filled, told, enough => by omega
  | [(name, value)], fuel + 1, rest, filled, told, enough => by
    simp only [toldMembers, Bool.and_true] at told
    simp only [renderMembers, List.length_append, List.length_cons] at enough ⊢
    rw [List.append_assoc, List.cons_append]
    apply members?_last
    exact value?_render value fuel _ told (endsNumber_cons rest (by decide)) (by omega)
  | (name, value) :: next :: members, fuel + 1, rest, filled, told, enough => by
    rw [toldMembers, Bool.and_eq_true] at told
    simp only [renderMembers, List.length_append, List.length_cons] at enough
    rw [renderMembers, List.append_assoc, List.append_assoc, List.cons_append, List.cons_append]
    · apply members?_next
      · exact value?_render value fuel _ told.1 (endsNumber_cons _ (by decide)) (by omega)
      · exact members?_renderMembers (next :: members) fuel rest (by simp) told.2 (by omega)
    · simp

end

/-- A value that is told by its written form is what that form stands for. -/
theorem read?_render {v : Json} (told : isTold v = true) : read? (render v) = some v := by
  have read := value?_render v (2 * (render v).length + 2) [] told (by simp [EndsNumber]) (by omega)
  rw [List.append_nil] at read
  rw [read?, read]
  rfl

end UploadInbox.Json
