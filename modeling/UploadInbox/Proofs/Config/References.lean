import UploadInbox.Config.Basic
import UploadInbox.Proofs.Text.Characters
import UploadInbox.Proofs.Text.Utf8

/-!
# References to the environment

A text divides in one way only into references and single characters at which no reference begins:
the way in which it is read from the left. A character that cannot stand inside a reference divides
a text into two that are read each for itself, so that what was put in for one reference has no part
in another. The first variable that is not set to a text is reported, whether it is set or not; if
there is none, the text that is read as a document has the values in the places of the references,
and all else as it was.
-/
namespace UploadInbox

namespace Environment

/-- How a reference to a variable is written. -/
def written (name : Text) : Text := '$' :: '\x7b' :: (name ++ ['\x7d'])

/-- A name of a variable: capital letters, digits and underscores that no digit begins. -/
def IsVariable (name : Text) : Prop :=
  ∃ c rest, name = c :: rest ∧ startsName c = true ∧ ∀ d ∈ rest, isNameChar d = true

/-- A reference stands at the front of a text. -/
def Begins (t : Text) : Prop := ∃ name rest, IsVariable name ∧ t = written name ++ rest

def Part.text : Part → Text
  | .char c => [c]
  | .reference name => written name

/-- The error of a variable that has no text for a value. -/
def unset (name : Text) : Error :=
  .config ("Environment variable '" ++ name ++ "' is referenced but not set")

variable {env : Environment} {t : Text} {ps : List Part} {name : Text}

/-! ## Values -/

theorem not_isNameChar_brace : isNameChar '\x7d' = false := by decide

theorem reference?_eq_some_iff :
    reference? t = some name ↔
      IsVariable name ∧ ∃ rest, t = '\x7b' :: (name ++ '\x7d' :: rest) := by
  have drop_takeWhile (rest : Text) :
      rest.drop (rest.takeWhile isNameChar).length = rest.dropWhile isNameChar :=
    calc
      rest.drop (rest.takeWhile isNameChar).length =
          (rest.takeWhile isNameChar ++ rest.dropWhile isNameChar).drop
            (rest.takeWhile isNameChar).length := by rw [List.takeWhile_append_dropWhile]
      _ = rest.dropWhile isNameChar := List.drop_left
  constructor
  · intro found
    unfold reference? at found
    split at found
    next b c rest =>
      split at found
      next opens =>
        simp only [Bool.and_eq_true, decide_eq_true_eq] at opens
        obtain ⟨brace, starts⟩ := opens
        obtain rfl : b = '\x7b' := Char.toNat_inj.mp brace
        simp only [drop_takeWhile] at found
        split at found
        next e more left =>
          split at found
          next closes =>
            obtain rfl : e = '\x7d' := Char.toNat_inj.mp closes
            cases found
            have inside : ∀ d ∈ rest.takeWhile isNameChar, isNameChar d = true :=
              List.all_eq_true.mp List.all_takeWhile
            refine ⟨⟨c, _, rfl, starts, inside⟩, more, ?_⟩
            rw [List.cons_append, ← left, List.takeWhile_append_dropWhile]
          next => cases found
        next => cases found
      next => cases found
    next => cases found
  · rintro ⟨⟨c, rest, rfl, starts, inside⟩, more, rfl⟩
    have name : (rest ++ '\x7d' :: more).takeWhile isNameChar = rest := by
      rw [List.takeWhile_append_of_pos inside]
      simp [not_isNameChar_brace]
    rw [List.cons_append, reference?]
    simp only [name, List.drop_left, starts]
    rfl

/-- What belongs to the reference before it is passed over. -/
theorem partsAfter_eq (skipped : Nat) (t : Text) :
    partsAfter skipped t = parts (t.drop skipped) := by
  induction skipped generalizing t with
  | zero => rfl
  | succ skipped ih =>
    cases t with
    | nil => rfl
    | cons c rest => exact ih rest

theorem parts_written_append (variable_name : IsVariable name) (rest : Text) :
    parts (written name ++ rest) = .reference name :: parts rest := by
  have shape : written name ++ rest = '$' :: '\x7b' :: (name ++ '\x7d' :: rest) := by
    simp [written]
  have found : reference? ('\x7b' :: (name ++ '\x7d' :: rest)) = some name :=
    reference?_eq_some_iff.mpr ⟨variable_name, rest, rfl⟩
  have behind : ('\x7b' :: (name ++ '\x7d' :: rest)).drop (name.length + 2) = rest := by
    rw [List.drop_succ_cons, List.drop_append, List.drop_of_length_le (Nat.le_succ _)]
    simp
  rw [shape, parts, partsAfter, if_pos rfl]
  simp only [found]
  rw [partsAfter_eq, behind]

/-- Whether a reference stands at the front of a text can be looked up. -/
theorem begins_cons_iff {c : Char} {rest : Text} :
    Begins (c :: rest) ↔ c = '$' ∧ (reference? rest).isSome = true := by
  constructor
  · rintro ⟨name, more, variable_name, same⟩
    obtain ⟨dollar, below⟩ := List.cons.inj same
    have found : reference? rest = some name :=
      reference?_eq_some_iff.mpr ⟨variable_name, more, by simp [below]⟩
    exact ⟨dollar, by rw [found]; rfl⟩
  · rintro ⟨rfl, found⟩
    obtain ⟨name, found⟩ := Option.isSome_iff_exists.mp found
    obtain ⟨variable_name, more, rfl⟩ := reference?_eq_some_iff.mp found
    exact ⟨name, more, variable_name, by simp [written]⟩

theorem not_begins_nil : ¬ Begins [] := by
  rintro ⟨name, rest, -, same⟩
  cases same

instance : DecidablePred Begins
  | [] => isFalse not_begins_nil
  | _ :: _ => decidable_of_iff _ begins_cons_iff.symm

theorem parts_cons_of_not_begins {c : Char} {rest : Text} (kept : ¬ Begins (c :: rest)) :
    parts (c :: rest) = .char c :: parts rest := by
  rw [parts, partsAfter]
  split
  next dollar =>
    cases found : reference? rest with
    | none => rfl
    | some name => exact absurd (begins_cons_iff.mpr ⟨dollar, by rw [found]; rfl⟩) kept
  next => rfl

theorem parts_cons_of_ne {c : Char} (other : c ≠ '$') (rest : Text) :
    parts (c :: rest) = .char c :: parts rest :=
  parts_cons_of_not_begins fun begins => other (begins_cons_iff.mp begins).1

/-- A text is gone through from the left, reference by reference and character by character. -/
theorem induction_on_parts {motive : Text → Prop} (nil : motive [])
    (reference : ∀ name rest, IsVariable name → motive rest → motive (written name ++ rest))
    (char : ∀ c rest, ¬ Begins (c :: rest) → motive rest → motive (c :: rest)) (t : Text) :
    motive t := by
  by_cases begins : Begins t
  · obtain ⟨name, rest, variable_name, same⟩ := begins
    have shorter : rest.length < t.length := by
      rw [same, List.length_append, written, List.length_cons]
      omega
    rw [same]
    exact reference name rest variable_name (induction_on_parts nil reference char rest)
  · cases t with
    | nil => exact nil
    | cons c rest => exact char c rest begins (induction_on_parts nil reference char rest)
termination_by t.length

/-- Whether a character may stand in a reference, but for its first. -/
def isInside (c : Char) : Bool := c = '\x7b' || c = '\x7d' || isNameChar c

theorem isInside_of_mem_tail {c : Char} (variable_name : IsVariable name)
    (member : c ∈ (written name).tail) : isInside c = true := by
  obtain ⟨first, rest, rfl, starts, inside⟩ := variable_name
  simp only [written, List.tail_cons, List.mem_cons, List.mem_append, List.not_mem_nil,
    or_false] at member
  rcases member with rfl | (rfl | later) | rfl
  · rfl
  · simp [isInside, isNameChar, starts]
  · simp [isInside, inside c later]
  · rfl

/-- A text that begins with none of the characters inside a reference is read for itself. -/
theorem parts_append (a : Text) {b : Text} (apart : ∀ c ∈ b.head?, isInside c = false) :
    parts (a ++ b) = parts a ++ parts b := by
  induction a using induction_on_parts with
  | nil => rfl
  | reference name rest variable_name ih =>
    rw [List.append_assoc, parts_written_append variable_name, parts_written_append variable_name,
      ih, List.cons_append]
  | char c rest kept ih =>
    have kept_longer : ¬ Begins (c :: (rest ++ b)) := by
      rintro ⟨name, more, variable_name, same⟩
      rw [← List.cons_append] at same
      rcases List.append_eq_append_iff.mp same with ⟨left, ends, behind⟩ | ⟨left, within, -⟩
      · -- The reference would go on in what follows.
        cases left with
        | nil =>
          rw [List.append_nil] at ends
          exact kept ⟨name, [], variable_name, by rw [ends, List.append_nil]⟩
        | cons d left =>
          have inside : d ∈ (written name).tail := by
            rw [ends, List.cons_append, List.tail_cons]
            simp
          rw [behind] at apart
          have outside := apart d rfl
          rw [isInside_of_mem_tail variable_name inside] at outside
          cases outside
      · exact kept ⟨name, left, variable_name, within⟩
    rw [List.cons_append, parts_cons_of_not_begins kept_longer, ih, parts_cons_of_not_begins kept,
      List.cons_append]

/-- A text that ends with none of the characters of a reference is read for itself, too. -/
theorem parts_append_of_last (a b : Text) {c : Char} (other : c ≠ '$')
    (outside : isInside c = false) :
    parts (a ++ [c] ++ b) = parts (a ++ [c]) ++ parts b := by
  have apart (rest : Text) : parts (a ++ c :: rest) = parts a ++ .char c :: parts rest := by
    rw [parts_append a (by rintro _ ⟨⟩; exact outside), parts_cons_of_ne other]
  rw [List.append_assoc, List.singleton_append, apart, apart, List.append_assoc]
  rfl

/-! ## Values in the places of references -/

/-- Every variable that a text refers to is set to a text. -/
def Supplies (env : Environment) (t : Text) : Prop :=
  ∀ name ∈ names t, (env.value? name).isSome = true

instance (env : Environment) (t : Text) : Decidable (Supplies env t) :=
  inferInstanceAs (Decidable (∀ name ∈ names t, (env.value? name).isSome = true))

theorem mem_names_iff : name ∈ names t ↔ .reference name ∈ parts t := by
  rw [names, List.mem_filterMap]
  constructor
  · rintro ⟨part, member, named⟩
    cases part with
    | char c => cases named
    | reference other =>
      cases named
      exact member
  · exact fun member => ⟨_, member, rfl⟩

def expand (env : Environment) (t : Text) : Text := (parts t).flatMap (·.expand env)

theorem isUnreadable_eq_true_iff {part : Part} :
    part.isUnreadable env = true ↔ ∃ name, part = .reference name ∧ env.value? name = none := by
  cases part with
  | char c => simp [Part.isUnreadable]
  | reference name => simp [Part.isUnreadable]

theorem substitute_of_supplies (supplies : Supplies env t) :
    env.substitute t = .ok (env.expand t) := by
  have none_unreadable : (parts t).find? (·.isUnreadable env) = none := by
    rw [List.find?_eq_none]
    intro part member missing
    obtain ⟨name, rfl, absent⟩ := isUnreadable_eq_true_iff.mp missing
    have present := supplies name (mem_names_iff.mpr member)
    rw [absent] at present
    cases present
  rw [substitute, none_unreadable, expand]

theorem substitute_of_first {before after : List Part}
    (first : parts t = before ++ .reference name :: after) (absent : env.value? name = none)
    (present : ∀ other, .reference other ∈ before → (env.value? other).isSome = true) :
    env.substitute t = .error (unset name) := by
  have found : (parts t).find? (·.isUnreadable env) = some (.reference name) := by
    rw [List.find?_eq_some_iff_append]
    refine ⟨isUnreadable_eq_true_iff.mpr ⟨name, rfl, absent⟩, before, after, first, ?_⟩
    intro part member
    cases part with
    | char c => rfl
    | reference other =>
      have there := present other member
      simp only [Part.isUnreadable, Option.isNone_eq_false_iff, Bool.not_eq_true', there]
  rw [substitute, found, unset]

/-- A text is supplied with all it refers to, or there is a first variable that cannot be read. -/
theorem supplies_or_first (env : Environment) (t : Text) :
    Supplies env t ∨ ∃ before name after, parts t = before ++ .reference name :: after ∧
      env.value? name = none ∧
      ∀ other, .reference other ∈ before → (env.value? other).isSome = true := by
  cases found : (parts t).find? (·.isUnreadable env) with
  | none =>
    left
    intro name member
    have here := List.find?_eq_none.mp found _ (mem_names_iff.mp member)
    simpa [Part.isUnreadable, Option.isSome_iff_ne_none] using here
  | some part =>
    right
    obtain ⟨missing, before, after, same, present⟩ := List.find?_eq_some_iff_append.mp found
    obtain ⟨name, rfl, absent⟩ := isUnreadable_eq_true_iff.mp missing
    refine ⟨before, name, after, same, absent, fun other member => ?_⟩
    have here := present _ member
    simpa [Part.isUnreadable, Option.isSome_iff_ne_none] using here

/-- Of texts that are read each for itself, each must be supplied. -/
theorem supplies_append {a b : Text} (apart : parts (a ++ b) = parts a ++ parts b) :
    Supplies env (a ++ b) ↔ Supplies env a ∧ Supplies env b := by
  simp only [Supplies, mem_names_iff, apart, List.mem_append]
  exact ⟨fun all => ⟨fun name member => all name (.inl member),
    fun name member => all name (.inr member)⟩,
    fun both name member => member.elim (both.1 name) (both.2 name)⟩

theorem expand_append (env : Environment) {a b : Text}
    (apart : parts (a ++ b) = parts a ++ parts b) :
    env.expand (a ++ b) = env.expand a ++ env.expand b := by
  rw [expand, apart, List.flatMap_append]
  rfl

end Environment

namespace Config

open Environment

variable {env : Environment} {t : Text}

/-- The configuration of a text in which nothing is left to be replaced. -/
def ofDocument (t : Text) : Except Error Config :=
  match (Yaml.Node.ofText? t).bind ofNode? with
  | some config => .ok config
  | none => .error malformed

theorem ofText_of_supplies (supplies : Supplies env t) :
    ofText env t = ofDocument (env.expand t) := by
  rw [ofText, substitute_of_supplies supplies]
  rfl

theorem ofText_of_first {before after : List Part} {name : Text}
    (first : parts t = before ++ .reference name :: after) (absent : env.value? name = none)
    (present : ∀ other, .reference other ∈ before → (env.value? other).isSome = true) :
    ofText env t = .error (unset name) := by
  rw [ofText, substitute_of_first first absent present]

end Config
end UploadInbox
