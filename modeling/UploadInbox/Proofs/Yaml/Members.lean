import UploadInbox.Proofs.Text.Characters
import UploadInbox.Proofs.Yaml.Scalars

/-!
# Members in lines of their own

A member of a block mapping whose key and value are scalars in a single line. What is read of its
line is settled by the line: it opens and closes blocks and adds tokens, or is refused, and the
lines below are then read as from their front. Only for a plain value at the end of its line it
matters what follows: it is not to go on in a line that is indented further.
-/
namespace UploadInbox.Yaml

structure Member where
  indent : Nat
  key : Scalar
  /-- The blanks in front of the colon. -/
  pad : Text
  /-- The value, behind blanks. Where it is missing, what is indented further below is the value. -/
  value : Option (Text × Scalar)
  /-- The blanks behind the value. -/
  trail : Text
  /-- The comment at the end of the line. -/
  remark : Option Text
  deriving DecidableEq, Repr

namespace Member

def ending (m : Member) : Text :=
  match m.remark with
  | none => m.trail
  | some remark => m.trail ++ '#' :: remark

def afterColon (m : Member) : Text :=
  match m.value with
  | none => m.ending
  | some (gap, value) => gap ++ (value.text ++ m.ending)

def body (m : Member) : Text := m.key.text ++ (m.pad ++ ':' :: m.afterColon)

def text (m : Member) : Text := List.replicate m.indent ' ' ++ m.body

/-- Whether a line is what its parts say: blanks are blanks, some stand in front of a value and of a
comment, and the line marks neither the start nor the end of a document. -/
def isValid (m : Member) : Bool :=
  m.key.isValid && m.pad.all isBlank
    && m.value.all (fun (gap, value) => !gap.isEmpty && gap.all isBlank && value.isValid)
    && m.trail.all isBlank && (m.remark.isNone || !m.trail.isEmpty) && !isMark m.text

/-- Whether the value might go on in the next line. -/
def isOpen (m : Member) : Bool :=
  match m.value, m.remark with
  | some (_, .plain _), none => true
  | _, _ => false

end Member

/-- Whether a plain scalar of a member with a given indentation ends before some lines: the first of
them with something in it is a comment, or is not indented further. -/
def isFlush (indent : Nat) : List Text → Bool
  | [] => true
  | content :: below =>
    match content.dropWhile (· = ' ') with
    | [] => isFlush indent below
    | c :: _ => c = '#' || (!isBlank c && (content.takeWhile (· = ' ')).length ≤ indent)

variable {m : Member} {c : Char} {t left : Text}

/-! ## The parts of a line -/

structure Member.Valid (m : Member) : Prop where
  key : m.key.isValid = true
  pad : m.pad.all isBlank = true
  value : ∀ gap value, m.value = some (gap, value) →
    gap ≠ [] ∧ gap.all isBlank = true ∧ value.isValid = true
  trail : m.trail.all isBlank = true
  remark : ∀ remark, m.remark = some remark → m.trail ≠ []
  mark : isMark m.text = false

theorem Member.valid_of_isValid (valid : m.isValid = true) : m.Valid := by
  simp only [isValid, Bool.and_eq_true, Bool.or_eq_true, Bool.not_eq_true'] at valid
  obtain ⟨⟨⟨⟨⟨key, pad⟩, value⟩, trail⟩, remark⟩, mark⟩ := valid
  refine ⟨key, pad, ?_, trail, ?_, mark⟩
  · intro gap scalar present
    rw [present] at value
    simpa [and_assoc] using value
  · intro text present
    rw [present] at remark
    simpa using remark

theorem skipInLine_blanks {pad : Text} (blank : pad.all isBlank = true) (t : Text) :
    skipInLine true (pad ++ t) = skipInLine true t := by
  have skipped : (pad ++ t).dropWhile (fun c => c = ' ' || (true && c = '\t')) =
      t.dropWhile fun c => c = ' ' || (true && c = '\t') :=
    List.dropWhile_append_of_pos fun c member => List.all_eq_true.mp blank c member
  rw [skipInLine, skipped, skipInLine]

theorem skipInLine_solid {tabs : Bool} (solid : isBlank c = false) (other : c ≠ '#') (t : Text) :
    skipInLine tabs (c :: t) = c :: t := by
  have apart : c ≠ ' ' ∧ c ≠ '\t' := by simpa [isBlank] using solid
  simp [skipInLine, apart, other]

theorem endsWord_of_isBlank {pad : Text} (blank : pad.all isBlank = true) (some_blanks : pad ≠ [])
    (t : Text) : endsWord (pad ++ t) = true := by
  cases pad with
  | nil => exact absurd rfl some_blanks
  | cons c pad => exact (Bool.and_eq_true_iff.mp blank).1

/-- What stands behind the value is passed over. -/
theorem Member.Valid.skipInLine_ending (valid : m.Valid) : skipInLine true m.ending = [] := by
  unfold ending
  split
  · rw [← List.append_nil m.trail, skipInLine_blanks valid.trail]
    rfl
  · rw [skipInLine_blanks valid.trail]
    rfl

theorem Member.Valid.endsWord_ending (valid : m.Valid) : endsWord m.ending = true := by
  unfold ending
  split
  next present =>
    cases blanks : m.trail with
    | nil => rfl
    | cons c trail =>
      have blank := valid.trail
      rw [blanks] at blank
      exact (Bool.and_eq_true_iff.mp blank).1
  next remark present => exact endsWord_of_isBlank valid.trail (valid.remark remark present) _

theorem Member.Valid.endsWord_afterColon (valid : m.Valid) : endsWord m.afterColon = true := by
  unfold afterColon
  split
  next => exact valid.endsWord_ending
  next gap value present =>
    obtain ⟨some_blanks, blank, -⟩ := valid.value gap value present
    exact endsWord_of_isBlank blank some_blanks _

/-- The key is read up to the blanks before the colon, or to the colon. -/
theorem Member.Valid.key_stops (valid : m.Valid) :
    ∃ left, m.key.Stops (m.pad ++ ':' :: m.afterColon) left ∧
      skipInLine true left = ':' :: m.afterColon := by
  have colon : skipInLine true (':' :: m.afterColon) = ':' :: m.afterColon :=
    skipInLine_solid rfl (by decide) _
  have blanks : skipInLine true (m.pad ++ ':' :: m.afterColon) = ':' :: m.afterColon := by
    rw [skipInLine_blanks valid.pad, colon]
  cases m.key with
  | plain text =>
    refine ⟨':' :: m.afterColon, ⟨?_, nofun⟩, colon⟩
    rw [plainSegment_of_isBlank valid.pad, plainSegment, valid.endsWord_afterColon]
    rfl
  | single value =>
    refine ⟨_, ⟨?_, rfl⟩, blanks⟩
    have blank := valid.pad
    cases pad : m.pad with
    | nil => simp
    | cons c pad =>
      rw [pad] at blank
      rintro quote
      obtain rfl : c = '\'' := Option.some.inj quote
      cases blank
  | double written => exact ⟨_, rfl, blanks⟩

/-- A value that does not go on in the next line is read up to what stands behind it. -/
theorem Member.Valid.value_stops (valid : m.Valid) {gap : Text} {value : Scalar}
    (present : m.value = some (gap, value)) (closed : m.isOpen = false) :
    ∃ left, value.Stops m.ending left ∧ skipInLine true left = [] := by
  cases value with
  | plain text =>
    cases marked : m.remark with
    | none => simp [isOpen, present, marked] at closed
    | some remark =>
      have blanks : m.trail.isEmpty = false := by
        rw [List.isEmpty_eq_false_iff]
        exact valid.remark remark marked
      refine ⟨'#' :: remark, ⟨?_, nofun⟩, rfl⟩
      rw [ending, marked]
      dsimp only
      rw [plainSegment_of_isBlank valid.trail, List.nil_append, plainSegment, blanks]
      rfl
  | single text =>
    refine ⟨_, ⟨?_, rfl⟩, valid.skipInLine_ending⟩
    intro quote
    have blank := valid.endsWord_ending
    cases behind : m.ending with
    | nil => simp [behind] at quote
    | cons c rest =>
      rw [behind] at quote blank
      obtain rfl : c = '\'' := Option.some.inj quote
      cases blank
  | double written => exact ⟨_, rfl, valid.skipInLine_ending⟩

theorem Member.exists_of_isOpen {gap : Text} {value : Scalar}
    (present : m.value = some (gap, value)) (open_value : m.isOpen = true) :
    ∃ text, value = .plain text ∧ m.remark = none := by
  unfold isOpen at open_value
  split at open_value
  next other text same bare =>
    rw [present] at same
    cases same
    exact ⟨text, rfl, bare⟩
  next => cases open_value

namespace Lexer

variable {indents : List Nat} {tokens : List Token} {cursor : Cursor} {below : List Line}

/-! ## The value -/

/-- Where spaces indent a line they are all its first blanks. -/
theorem blanks_of_spaces {content rest : Text} (left : content.dropWhile (· = ' ') = rest)
    (solid : ∀ c ∈ rest.head?, isBlank c = false) :
    content.takeWhile isBlank = content.takeWhile (· = ' ') ∧
      content.dropWhile isBlank = rest := by
  induction content with
  | nil => exact ⟨rfl, left⟩
  | cons c content ih =>
    by_cases space : c = ' '
    · subst space
      obtain ⟨blanks, here⟩ := ih (by simpa using left)
      exact ⟨by simpa [isBlank] using blanks, by simpa [isBlank] using here⟩
    · have whole : c :: content = rest := by simpa [space] using left
      have word := solid c (by rw [← whole]; rfl)
      exact ⟨by simp [space, word], by simpa [word] using whole⟩

/-- What a plain scalar at the end of its line stops at is where the lines below are read from. -/
theorem exists_plainBelow {indent : Nat} (first more : Text)
    (flush : isFlush indent (below.map (·.content)) = true) (ended : Ended below) :
    ∃ cursor, plainBelow false (indent + 1) first more below = some ⟨[], true, cursor⟩ ∧
      ∀ indents tokens,
        Alike ⟨indents, none, [], true, tokens, cursor⟩ (before indents tokens below) := by
  induction below generalizing more with
  | nil => exact ⟨_, rfl, fun _ _ _ => rfl⟩
  | cons line below ih =>
    obtain ⟨last, ended⟩ := ended
    rw [List.map_cons, isFlush] at flush
    have no_tab : '\t' ∉ (line.content.takeWhile (· = ' ')).take (indent + 1) := fun member =>
      not_mem_of_class (List.all_eq_true.mp List.all_takeWhile) (by decide)
        (List.mem_of_mem_take member)
    cases left : line.content.dropWhile (· = ' ') with
    | nil =>
      rw [left] at flush
      obtain ⟨blanks, here⟩ := blanks_of_spaces left nofun
      obtain ⟨cursor, stops, alike⟩ := ih (more ++ line.ending) flush ended
      have remark : isRemark line.content = true := by rw [isRemark, left]; rfl
      refine ⟨cursor, ?_, fun indents tokens => ?_⟩
      · simp [plainBelow, blanks, here, no_tab, stops]
      · rw [before, skipBelow_cons_of_isRemark remark]
        exact alike indents tokens
    | cons c rest =>
      rw [left] at flush
      by_cases mark : c = '#'
      · subst mark
        obtain ⟨blanks, here⟩ := blanks_of_spaces left (by rintro _ ⟨⟩; rfl)
        have remark : isRemark line.content = true := by rw [isRemark, left]; rfl
        refine ⟨line.leaving ('#' :: rest) below, ?_, fun indents tokens => ?_⟩
        · simp [plainBelow, blanks, here, no_tab]
        · rw [before, skipBelow_cons_of_isRemark remark]
          exact alike_before rfl last
      · simp only [mark, decide_false, Bool.false_or, Bool.and_eq_true, Bool.not_eq_true',
          decide_eq_true_eq] at flush
        obtain ⟨solid, within⟩ := flush
        obtain ⟨blanks, here⟩ := blanks_of_spaces left (by rintro _ ⟨⟩; exact solid)
        refine ⟨line.leaving (c :: rest) below, ?_, fun indents tokens => ?_⟩
        · simp [plainBelow, blanks, here, no_tab, Nat.lt_succ_of_le within]
        · have found : skipInLine false line.content = c :: rest := by
            rw [skipInLine_false, left]
            simp [mark]
          have same : skipBelow false (line :: below) = line.leaving (c :: rest) below := by
            rw [skipBelow, found]
          rw [before, same]
          exact fun _ => rfl

theorem readPlain_of_value {plain : Plain}
    (read : plain? false (Lexer.mk indents none [] false tokens cursor).innerIndent cursor =
      some plain) :
    (Lexer.mk indents none [] false tokens cursor).readPlain =
      some ⟨indents, none, [], plain.ended, .scalar .plain plain.text :: tokens, plain.cursor⟩ := by
  rw [readPlain, saveCandidate_eq]
  simp only [Option.bind_eq_bind, Option.bind_some]
  rw [offered, if_neg (by decide), show (Lexer.mk indents none [] false tokens cursor).flow = false
    from rfl, read]
  exact moveTo_of_candidate_none

/-- The place behind the colon of a member, inside the block that the member belongs to. -/
structure BehindColon (m : Member) (indents : List Nat) (cursor : Cursor) : Prop where
  innermost : indents.head? = some m.indent
  inside : m.indent < cursor.column
  rest : cursor.rest = m.afterColon

/-- What may stand below the line of a member: nothing without an ending, and nothing in which the
value goes on. -/
structure Follows (m : Member) (ending : Text) (below : List Line) : Prop where
  last : ending = [] → below = []
  ended : Ended below
  flush : m.isOpen = true → isFlush m.indent (below.map (·.content)) = true

/-- The value on the line of a member is refused. -/
def RefusesValue (m : Member) : Prop :=
  ∀ indents tokens cursor, BehindColon m indents cursor →
    (Lexer.mk indents none [] false tokens cursor).step = none

/-- The value on the line of a member is read as a token, and then the lines below. -/
def ReadsValue (m : Member) (token : Token) : Prop :=
  ∀ indents tokens cursor, BehindColon m indents cursor → Follows m cursor.ending cursor.below →
    ∃ l, (Lexer.mk indents none [] false tokens cursor).step = some l ∧ l.indents = indents ∧
      Alike l (before indents (token :: tokens) cursor.below)

theorem BehindColon.ne_nil (behind : BehindColon m indents cursor) : indents ≠ [] := by
  rintro rfl
  cases behind.innermost

theorem BehindColon.innerIndent (behind : BehindColon m indents cursor) (goal : Cursor) :
    (Lexer.mk indents none [] false tokens goal).innerIndent = m.indent + 1 := by
  have innermost := behind.innermost
  cases indents with
  | nil => cases innermost
  | cons n indents =>
    cases innermost
    rfl

/-- Behind a colon on the same line nothing is closed and nothing is offered as a key. -/
theorem BehindColon.step_eq (behind : BehindColon m indents cursor) {rest : Text}
    (found : skipInLine true m.afterColon = c :: rest) :
    (Lexer.mk indents none [] false tokens cursor).step =
      (Lexer.mk indents none [] false tokens (cursor.leaving (c :: rest))).dispatch c rest := by
  have within (n : Nat) (first : n ∈ indents.head?) : n ≤ (cursor.leaving (c :: rest)).column := by
    rw [behind.innermost] at first
    cases first
    exact Nat.le_trans (Nat.le_of_lt behind.inside) (Nat.le_add_right _ _)
  have unrolled : (Lexer.mk indents none [] false tokens (cursor.leaving (c :: rest))).unroll = _ :=
    unroll_of_le within
  have here : skipInLine (!false) cursor.rest = c :: rest := by rw [behind.rest]; exact found
  rw [step_of_cons here]
  exact congrArg (dispatch c rest) unrolled

/-- A value is never at the front of its line, where it might be a mark. -/
theorem BehindColon.column_ne (behind : BehindColon m indents cursor) (rest : Text) :
    (cursor.leaving rest).column ≠ 0 := by
  have inside := behind.inside
  rw [Cursor.leaving]
  dsimp only
  omega

section Value

variable {gap : Text} {value : Scalar}

theorem exists_value_eq (valid : m.Valid) (present : m.value = some (gap, value)) :
    ∃ c rest, value.text ++ m.ending = c :: rest ∧ skipInLine true m.afterColon = c :: rest := by
  obtain ⟨-, blank, valid_value⟩ := valid.value gap value present
  obtain ⟨c, rest, text, solid, other⟩ := Scalar.exists_text_eq valid_value
  have whole : value.text ++ m.ending = c :: (rest ++ m.ending) := by rw [text, List.cons_append]
  refine ⟨c, rest ++ m.ending, whole, ?_⟩
  rw [Member.afterColon, present]
  dsimp only
  rw [skipInLine_blanks blank, whole]
  exact skipInLine_solid solid other _

/-- A value with something behind it, or between quotes, is read or an escape in it is refused. -/
theorem step_closed_value (valid : m.Valid) (present : m.value = some (gap, value))
    (closed : m.isOpen = false) : RefusesValue m ∨ ∃ token, ReadsValue m token := by
  obtain ⟨c, rest, whole, found⟩ := exists_value_eq valid present
  obtain ⟨left, stops, nothing⟩ := valid.value_stops present closed
  obtain ⟨token?, shift, reads⟩ :=
    dispatch_scalar (valid.value gap value present).2.2 stops
  have stepped (indents : List Nat) (tokens : List Token) (cursor : Cursor)
      (behind : BehindColon m indents cursor) :
      (Lexer.mk indents none [] false tokens cursor).step = _ :=
    (behind.step_eq found).trans
      (reads _ _ _ _ _ _ rfl whole fun first => absurd first (behind.column_ne _))
  cases token? with
  | none => exact .inl fun indents tokens cursor behind => stepped indents tokens cursor behind
  | some token =>
    refine .inr ⟨token, fun indents tokens cursor behind follows => ?_⟩
    exact ⟨_, stepped indents tokens cursor behind, rfl, alike_before nothing follows.last⟩

/-- A plain value at the end of its line ends there. -/
theorem step_open_value (valid : m.Valid) (present : m.value = some (gap, value))
    (open_value : m.isOpen = true) : ∃ token, ReadsValue m token := by
  obtain ⟨c, rest, whole, found⟩ := exists_value_eq valid present
  obtain ⟨text, rfl, bare⟩ := Member.exists_of_isOpen present open_value
  have nothing_more : plainSegment false [] m.ending = some ([], []) := by
    rw [Member.ending, bare]
    dsimp only
    rw [← List.append_nil m.trail, plainSegment_of_isBlank valid.trail]
    rfl
  obtain ⟨starts, segment⟩ :=
    plain_append (valid.value gap _ present).2.2 whole nothing_more
  refine ⟨.scalar .plain text, fun indents tokens cursor behind follows => ?_⟩
  have read : (Lexer.mk indents none [] false tokens cursor).step =
      (Lexer.mk indents none [] false tokens (cursor.leaving (c :: rest))).readPlain := by
    rw [behind.step_eq found,
      dispatch_of_startsPlain rfl starts fun first => absurd first (behind.column_ne _)]
  -- On the last line the text ends with the scalar, on any other the lines below end it.
  by_cases ends : cursor.ending = []
  · have stops : plain? false (m.indent + 1) (cursor.leaving (c :: rest)) =
        some ⟨text, false, (cursor.leaving (c :: rest)).leaving []⟩ := by
      rw [plain?, Cursor.leaving, segment]
      dsimp only
      rw [ends]
      rfl
    rw [read, readPlain_of_value (by rw [behind.innerIndent]; exact stops)]
    exact ⟨_, rfl, rfl, alike_before rfl follows.last⟩
  · obtain ⟨goal, stops, alike⟩ :=
      exists_plainBelow cursor.ending [] (follows.flush open_value) follows.ended
    have stops : plain? false (m.indent + 1) (cursor.leaving (c :: rest)) =
        some ⟨text, true, goal⟩ := by
      rw [plain?, Cursor.leaving, segment]
      dsimp only
      rw [List.isEmpty_eq_false_iff.mpr ends, stops]
      simp [Plain.prepend]
    rw [read, readPlain_of_value (by rw [behind.innerIndent]; exact stops)]
    exact ⟨_, rfl, rfl, alike _ _⟩

/-- The value on the line of its key is read, or an escape in it is refused. -/
theorem step_value (valid : m.Valid) (present : m.value = some (gap, value)) :
    RefusesValue m ∨ ∃ token, ReadsValue m token := by
  by_cases open_value : m.isOpen = true
  · exact .inr (step_open_value valid present open_value)
  · rw [Bool.not_eq_true] at open_value
    exact step_closed_value valid present open_value

end Value

end Lexer

end UploadInbox.Yaml
