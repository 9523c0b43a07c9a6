import UploadInbox.Proofs.Yaml.Members
import UploadInbox.Yaml.Node

/-!
# Documents of block mappings

The lines of a document of block mappings are members and comments. What the first lines come to
does not depend on the others, apart from what their indentation says of a plain value; so a line
with a comment can stand between any two lines, and the tokens are the same.
-/
namespace UploadInbox.Yaml

/-- A line of a document of block mappings. -/
inductive Row where
  /-- A comment, or nothing. -/
  | remark (content : Text)
  | member (m : Member)
  deriving DecidableEq, Repr

namespace Row

def text : Row → Text
  | remark content => content
  | member m => m.text

def isValid : Row → Bool
  | remark content => isRemark content
  | member m => m.isValid

/-- Whether the value of a member ends on its line, with given lines below. -/
def endsBefore (below : List Row) : Row → Bool
  | remark _ => true
  | member m => !m.isOpen || isFlush m.indent (below.map text)

end Row

/-- Whether lines are what they are said to be, and all values end on their lines. -/
def areRows : List Row → Bool
  | [] => true
  | row :: below => row.isValid && row.endsBefore below && areRows below

/-- A text is the document of block mappings whose keys and values are scalars in a single line. -/
structure IsMapping (t : Text) : Prop where
  rows : ∃ rows, areRows rows = true ∧ (lines t).map (·.content) = rows.map Row.text
  unmarked : t.head? ≠ some '\uFEFF'

variable {m : Member} {rows others remarks : List Row} {indent : Nat}

/-! ## Comments among lines -/

theorem isFlush_cons_of_isRemark {content : Text} {below : List Text}
    (remark : isRemark content = true) (flush : isFlush indent below = true) :
    isFlush indent (content :: below) = true := by
  rw [isFlush]
  unfold isRemark at remark
  split
  next => exact flush
  next c rest left =>
    rw [left] at remark
    have mark : decide (c = '#') = true := remark
    rw [mark, Bool.true_or]

/-- Where a plain scalar ends, it ends also with comments in between. -/
theorem isFlush_insert {above below remarks : List Text}
    (all : ∀ content ∈ remarks, isRemark content = true)
    (flush : isFlush indent (above ++ below) = true) :
    isFlush indent (above ++ (remarks ++ below)) = true := by
  induction above with
  | nil =>
    induction remarks with
    | nil => exact flush
    | cons content remarks ih =>
      exact isFlush_cons_of_isRemark (all content List.mem_cons_self)
        (ih fun other member => all other (List.mem_cons_of_mem _ member))
  | cons content above ih =>
    rw [List.cons_append, isFlush] at flush ⊢
    split
    next left =>
      rw [left] at flush
      exact ih flush
    next c rest left =>
      rw [left] at flush
      exact flush

theorem endsBefore_insert {row : Row} {contents : List Text}
    (all : ∀ content ∈ contents, isRemark content = true)
    (ends : row.endsBefore (rows ++ others) = true) :
    row.endsBefore (rows ++ (contents.map Row.remark ++ others)) = true := by
  cases row with
  | remark content => rfl
  | member m =>
    have texts : (contents.map Row.remark).map Row.text = contents := by
      rw [List.map_map]
      exact List.map_id contents
    rw [Row.endsBefore, Bool.or_eq_true, List.map_append] at ends
    rw [Row.endsBefore, Bool.or_eq_true, List.map_append, List.map_append, texts]
    exact ends.imp_right (isFlush_insert all)

theorem areRows_insert {contents : List Text} (all : ∀ content ∈ contents, isRemark content = true)
    (valid : areRows (rows ++ others) = true) :
    areRows (rows ++ (contents.map Row.remark ++ others)) = true := by
  induction rows with
  | nil =>
    induction contents with
    | nil => exact valid
    | cons content contents ih =>
      have here := all content List.mem_cons_self
      have below := ih fun other member => all other (List.mem_cons_of_mem _ member)
      rw [List.nil_append] at below ⊢
      rw [List.map_cons, List.cons_append, areRows, Row.isValid, here, below]
      rfl
  | cons row rows ih =>
    rw [List.cons_append, areRows, Bool.and_eq_true, Bool.and_eq_true] at valid ⊢
    exact ⟨⟨valid.1.1, endsBefore_insert all valid.1.2⟩, ih valid.2⟩

theorem areRows_of_append (valid : areRows (rows ++ others) = true) : areRows others = true := by
  induction rows with
  | nil => exact valid
  | cons row rows ih =>
    rw [List.cons_append, areRows, Bool.and_eq_true] at valid
    exact ih valid.2

theorem isValid_of_areRows (valid : areRows (rows ++ others) = true) :
    ∀ row ∈ rows, row.isValid = true := by
  induction rows with
  | nil => exact nofun
  | cons row rows ih =>
    rw [List.cons_append, areRows, Bool.and_eq_true, Bool.and_eq_true] at valid
    exact List.forall_mem_cons.mpr ⟨valid.1.1, ih valid.2⟩

/-! ## What lines come to -/

namespace Lexer

variable {indents : List Nat} {tokens : List Token} {ls others : List Line}
  {P Q : List Line → Prop}

/-- What is read of some lines is the same before all lines of a kind: they are refused, or after at
most as many steps as they have characters the lines below are read from their front. -/
def Reads (ls : List Line) (P : List Line → Prop) : Prop :=
  ∀ indents tokens,
    (∀ below, P below → ∀ fuel,
      run (fuel + width ls) (before indents tokens (ls ++ below)) = none) ∨
    ∃ steps ≤ width ls, ∃ indents' tokens', ∀ below, P below → ∀ fuel,
      run (fuel + steps) (before indents tokens (ls ++ below)) =
        run fuel (before indents' tokens' below)

theorem Reads.mono (reads : Reads ls P) (weaker : ∀ below, Q below → P below) : Reads ls Q := by
  intro indents tokens
  rcases reads indents tokens with refused | ⟨steps, bound, indents', tokens', goes⟩
  · exact .inl fun below kind => refused below (weaker below kind)
  · exact .inr ⟨steps, bound, indents', tokens', fun below kind => goes below (weaker below kind)⟩

theorem reads_nil : Reads [] P :=
  fun indents tokens => .inr ⟨0, Nat.le_refl 0, indents, tokens, fun _ _ _ => rfl⟩

theorem Reads.append (first : Reads ls P) (second : Reads others Q) :
    Reads (ls ++ others) fun below => P (others ++ below) ∧ Q below := by
  intro indents tokens
  have wide := width_append ls others
  rcases first indents tokens with refused | ⟨steps, bound, indents', tokens', goes⟩
  · left
    rintro below ⟨kind, -⟩ fuel
    have here := refused _ kind (fuel + width others)
    rwa [List.append_assoc, wide, Nat.add_comm (width ls), ← Nat.add_assoc]
  · rcases second indents' tokens' with refused | ⟨steps', bound', indents'', tokens'', goes'⟩
    · left
      rintro below ⟨kind, kind'⟩ fuel
      have enough : fuel + width (ls ++ others) =
          fuel + (width ls - steps) + width others + steps := by omega
      rw [List.append_assoc, enough, goes _ kind, refused _ kind']
    · refine .inr ⟨steps' + steps, by omega, indents'', tokens'', ?_⟩
      rintro below ⟨kind, kind'⟩ fuel
      rw [List.append_assoc, ← Nat.add_assoc, goes _ kind, goes' _ kind']

/-- A line without a member is passed over. -/
theorem reads_remark {line : Line} (remark : isRemark line.content = true) : Reads [line] P := by
  intro indents tokens
  refine .inr ⟨0, Nat.zero_le _, indents, tokens, fun below _ fuel => ?_⟩
  rw [before, List.singleton_append, skipBelow_cons_of_isRemark remark]
  rfl

theorem exists_body_eq (valid : m.Valid) :
    ∃ c rest, m.body = c :: rest ∧ isBlank c = false ∧ c ≠ '#' := by
  obtain ⟨c, rest, text, solid, other⟩ := Scalar.exists_text_eq valid.key
  exact ⟨c, _, by rw [Member.body, text, List.cons_append], solid, other⟩

theorem skipBelow_member (valid : m.Valid) {line : Line} (here : line.content = m.text)
    (below : List Line) :
    skipBelow false (line :: below) = ⟨m.indent, m.body, line.ending, below⟩ := by
  obtain ⟨c, rest, body, solid, other⟩ := exists_body_eq valid
  have space : c ≠ ' ' := by
    rintro rfl
    cases solid
  have spaces : m.text.dropWhile (· = ' ') = c :: rest := by
    rw [Member.text, body, List.dropWhile_append_of_pos (by simp)]
    simp [space]
  have found : skipInLine false line.content = c :: rest := by
    rw [here, skipInLine_false, spaces]
    simp [other]
  have column : m.text.length - (c :: rest).length = m.indent := by
    rw [Member.text, body, List.length_append, List.length_replicate, Nat.add_sub_cancel]
  rw [skipBelow, found]
  dsimp only
  rw [Line.leaving, here, column, body]

/-- The key of a member is read up to its colon, unless an escape in it is refused. -/
theorem step_key (valid : m.Valid) :
    (∀ indents tokens (line : Line) below, line.content = m.text →
      (before indents tokens (line :: below)).step = none) ∨
    ∃ token shift left, skipInLine true left = ':' :: m.afterColon ∧
      ∀ indents tokens, ∃ indents' tokens', (∀ n ∈ indents'.head?, n ≤ m.indent) ∧
        ∀ (line : Line) below, line.content = m.text →
        (before indents tokens (line :: below)).step =
          some ⟨indents', offered indents' true tokens' m.indent, [], false, token :: tokens',
            ⟨m.indent + shift, left, line.ending, below⟩⟩ := by
  obtain ⟨left, stops, colon⟩ := valid.key_stops
  obtain ⟨token?, shift, reads⟩ := dispatch_scalar valid.key stops
  obtain ⟨c, rest, body, solid, other⟩ := exists_body_eq valid
  have found : skipInLine (!true) (c :: rest) = c :: rest := skipInLine_solid solid other rest
  have opened (indents : List Nat) (tokens : List Token) : ∃ indents' tokens',
      (∀ n ∈ indents'.head?, n ≤ m.indent) ∧ ∀ (line : Line) below, line.content = m.text →
        (before indents tokens (line :: below)).step =
          (Lexer.mk indents' none [] true tokens'
            ⟨m.indent, c :: rest, line.ending, below⟩).dispatch c rest := by
    refine ⟨indents.dropWhile (m.indent < ·),
      (indents.takeWhile (m.indent < ·)).map (fun _ => Token.blockEnd) ++ tokens,
      head_unroll_le, fun line below here => ?_⟩
    rw [before, skipBelow_member valid here, body, step_of_cons found, Cursor.leaving, Nat.sub_self]
    rfl
  have unmarked : m.indent = 0 → isMark (c :: rest) = false := by
    intro outermost
    have mark := valid.mark
    rwa [Member.text, outermost, body] at mark
  cases token? with
  | none =>
    left
    intro indents tokens line below here
    obtain ⟨indents', tokens', -, stepped⟩ := opened indents tokens
    rw [stepped line below here, reads _ _ _ _ _ _ rfl body unmarked]
    rfl
  | some token =>
    right
    refine ⟨token, shift, left, colon, fun indents tokens => ?_⟩
    obtain ⟨indents', tokens', within, stepped⟩ := opened indents tokens
    refine ⟨indents', tokens', within, fun line below here => ?_⟩
    rw [stepped line below here, reads _ _ _ _ _ _ rfl body unmarked]
    rfl

/-- After two steps the colon of a member has been read. -/
theorem run_to_colon (valid : m.Valid) {line : Line} (here : line.content = m.text)
    (indents : List Nat) (tokens : List Token) :
    (∀ below fuel, run fuel (before indents tokens (line :: below)) = none) ∨
    ∃ indents' tokens' place,
      (∀ below, BehindColon m indents' ⟨place, m.afterColon, line.ending, below⟩) ∧
      ∀ below fuel, run (fuel + 2) (before indents tokens (line :: below)) =
        run fuel ⟨indents', none, [], false, tokens',
          ⟨place, m.afterColon, line.ending, below⟩⟩ := by
  rcases step_key valid with refused | ⟨token, shift, left, colon, opened⟩
  · exact .inl fun below fuel => run_of_step_none (refused _ _ _ _ here) fuel
  obtain ⟨indents₁, tokens₁, within, key⟩ := opened indents tokens
  have more : left ≠ [] := by
    rintro rfl
    cases colon
  have goes (below : List Line) (fuel : Nat) := run_of_step (key line below here) (.inr more) fuel
  obtain ⟨outcome, place, inside, innermost, reads⟩ :=
    step_colon ⟨tokens₁.length, m.indent, indents₁.head? == some m.indent⟩ (token :: tokens₁)
      within (Nat.le_add_right _ shift) colon valid.endsWord_afterColon
  cases outcome with
  | none =>
    left
    intro below fuel
    cases fuel with
    | zero => rfl
    | succ fuel => exact (goes below fuel).trans (run_of_step_none (reads line.ending below) fuel)
  | some outcome =>
    right
    have behind (below : List Line) :
        BehindColon m outcome.1 ⟨place, m.afterColon, line.ending, below⟩ :=
      ⟨innermost _ rfl, inside, rfl⟩
    refine ⟨outcome.1, outcome.2, place, behind, fun below fuel => ?_⟩
    exact (goes below (fuel + 1)).trans
      (run_of_step (reads line.ending below) (.inl (behind below).ne_nil) fuel)

theorem two_le_length (valid : m.Valid) : 2 ≤ m.text.length := by
  obtain ⟨c, rest, text, -⟩ := Scalar.exists_text_eq valid.key
  simp only [Member.text, Member.body, text, List.length_append, List.length_cons]
  omega

theorem three_le_length (valid : m.Valid) {gap : Text} {value : Scalar}
    (present : m.value = some (gap, value)) : 3 ≤ m.text.length := by
  obtain ⟨c, rest, text, -⟩ := Scalar.exists_text_eq valid.key
  obtain ⟨-, -, valid_value⟩ := valid.value gap value present
  obtain ⟨d, more, value_text, -⟩ := Scalar.exists_text_eq valid_value
  simp only [Member.text, Member.body, Member.afterColon, present, text, value_text,
    List.length_append, List.length_cons]
  omega

/-- What comes of a member does not depend on the lines below, if its value ends on its line. -/
theorem reads_member (valid : m.Valid) {line : Line} (here : line.content = m.text) :
    Reads [line] (Follows m line.ending) := by
  intro indents tokens
  have wide : width [line] = m.text.length := by simp [width, here]
  rcases run_to_colon valid here indents tokens with
    refused | ⟨indents', tokens', place, behind, goes⟩
  · exact .inl fun below _ fuel => refused below _
  cases present : m.value with
  | none =>
    have two := two_le_length valid
    refine .inr ⟨2, by omega, indents', tokens', fun below follows fuel => ?_⟩
    have nothing : skipInLine (!false) m.afterColon = [] := by
      rw [Member.afterColon, present]
      exact valid.skipInLine_ending
    have alike : Alike ⟨indents', none, [], false, tokens',
        ⟨place, m.afterColon, line.ending, below⟩⟩ (before indents' tokens' below) :=
      alike_before nothing follows.last
    exact (goes below fuel).trans (alike fuel)
  | some value =>
    have three := three_le_length valid present
    rcases step_value valid present with refused | ⟨token, reads⟩
    · left
      intro below _ fuel
      have enough : fuel + width [line] = fuel + (m.text.length - 2) + 2 := by omega
      rw [enough, List.singleton_append, goes]
      exact run_of_step_none (refused _ _ _ (behind below)) _
    · refine .inr ⟨3, by omega, indents', token :: tokens', fun below follows fuel => ?_⟩
      obtain ⟨l, stepped, same, alike⟩ := reads indents' tokens' _ (behind below) follows
      have inside : l.indents ≠ [] := by
        rw [same]
        exact (behind below).ne_nil
      calc
        run (fuel + 1 + 2) (before indents tokens (line :: below)) = run (fuel + 1) _ :=
          goes below (fuel + 1)
        _ = run fuel l := run_of_step stepped (.inl inside) fuel
        _ = run fuel (before indents' (token :: tokens') below) := alike fuel

/-- The lines above in a document of block mappings. -/
theorem reads_rows {rows : List Row} (valid : ∀ row ∈ rows, row.isValid = true)
    (same : ls.map (·.content) = rows.map Row.text) :
    Reads ls fun below => Ended (ls ++ below) ∧
      ∃ others, below.map (·.content) = others.map Row.text ∧ areRows (rows ++ others) = true := by
  induction rows generalizing ls with
  | nil =>
    obtain rfl := List.map_eq_nil_iff.mp same
    exact reads_nil
  | cons row rows ih =>
    cases ls with
    | nil => cases same
    | cons line ls =>
      obtain ⟨here, below_same⟩ := List.cons.inj same
      have below := ih (fun other member => valid other (List.mem_cons_of_mem _ member)) below_same
      have valid_row := valid row List.mem_cons_self
      cases row with
      | remark content =>
        have remark : isRemark line.content = true := by
          rw [show line.content = content from here]
          exact valid_row
        refine ((reads_remark (P := fun _ => True) remark).append below).mono ?_
        rintro lines ⟨ended, others, there, rows_valid⟩
        rw [List.cons_append, areRows, Bool.and_eq_true] at rows_valid
        exact ⟨trivial, ended.2, others, there, rows_valid.2⟩
      | member m =>
        refine ((reads_member (Member.valid_of_isValid valid_row) here).append below).mono ?_
        rintro lines ⟨ended, others, there, rows_valid⟩
        rw [List.cons_append, areRows, Bool.and_eq_true, Bool.and_eq_true] at rows_valid
        obtain ⟨⟨-, ends⟩, rows_valid⟩ := rows_valid
        refine ⟨⟨ended.1, ended.2, fun open_value => ?_⟩, ended.2, others, there, rows_valid⟩
        rw [Row.endsBefore, open_value, Bool.not_true, Bool.false_or, List.map_append] at ends
        rw [List.map_append, below_same, there]
        exact ends

/-- A document is read from the front of its lines. -/
theorem alike_start (ended : Ended ls) : Alike (start ls) (before [] [] ls) := by
  cases ls with
  | nil => exact fun _ => rfl
  | cons line below =>
    cases found : skipInLine false line.content with
    | nil =>
      rw [before, skipBelow_cons_of_isRemark (isRemark_iff.mpr found)]
      exact alike_before found ended.1
    | cons c rest =>
      refine alike_of_skipTrivia ?_
      have here : skipInLine (!true) (line.leaving line.content below).rest = c :: rest := found
      rw [skipTrivia_before, start, skipTrivia_of_cons here, before, skipBelow, found]
      simp [Line.leaving, Cursor.leaving]

/-- There are enough steps to read a document to its end, whatever is open before it. -/
theorem run_before_eq {rows : List Row} (valid : areRows rows = true)
    (same : ls.map (·.content) = rows.map Row.text) (ended : Ended ls) {fuel fuel' : Nat}
    (enough : width ls < fuel) (enough' : width ls < fuel') :
    run fuel (before indents tokens ls) = run fuel' (before indents tokens ls) := by
  have padded : areRows (rows ++ []) = true := by rwa [List.append_nil]
  have whole : Ended (ls ++ []) ∧ ∃ others : List Row,
      ([] : List Line).map (·.content) = others.map Row.text ∧ areRows (rows ++ others) = true := by
    rw [List.append_nil]
    exact ⟨ended, [], rfl, padded⟩
  have each : ∀ row ∈ rows, row.isValid = true := isValid_of_areRows padded
  rcases reads_rows each same indents tokens with refused | ⟨steps, bound, indents', tokens', goes⟩
  · have none_read (fuel : Nat) (enough : width ls < fuel) :
        run fuel (before indents tokens ls) = none := by
      have here := refused [] whole (fuel - width ls)
      rwa [Nat.sub_add_cancel (Nat.le_of_lt enough), List.append_nil] at here
    rw [none_read fuel enough, none_read fuel' enough']
  · have read (fuel : Nat) (enough : width ls < fuel) :
        run fuel (before indents tokens ls) =
          some (indents'.map (fun _ => Token.blockEnd) ++ tokens').reverse := by
      have here := goes [] whole (fuel - steps)
      rw [Nat.sub_add_cancel (by omega), List.append_nil] at here
      obtain ⟨left, more⟩ := Nat.exists_eq_add_of_lt (Nat.lt_of_le_of_lt bound enough)
      rw [here, more, Nat.add_assoc, Nat.add_sub_cancel_left]
      exact run_at_end skipTrivia_before left
    rw [read fuel enough, read fuel' enough']

/-- Lines with comments only may stand between any two lines. -/
theorem run_insert {above remarks below : List Line} {rows : List Row}
    (valid : areRows rows = true)
    (same : (above ++ below).map (·.content) = rows.map Row.text)
    (all : ∀ line ∈ remarks, isRemark line.content = true)
    (ended : Ended (above ++ below)) (ended' : Ended (above ++ (remarks ++ below)))
    {fuel fuel' : Nat} (enough : width (above ++ below) < fuel)
    (enough' : width (above ++ (remarks ++ below)) < fuel') :
    run fuel' (start (above ++ (remarks ++ below))) = run fuel (start (above ++ below)) := by
  rw [List.map_append] at same
  obtain ⟨rows_above, rows_below, rfl, same_above, same_below⟩ :=
    List.map_eq_append_iff.mp same.symm
  have all_contents : ∀ content ∈ remarks.map (·.content), isRemark content = true := by
    intro content member
    obtain ⟨line, there, rfl⟩ := List.mem_map.mp member
    exact all line there
  have texts : ((remarks.map (·.content)).map Row.remark).map Row.text =
      remarks.map (·.content) := by
    rw [List.map_map]
    exact List.map_id _
  have without : Ended (above ++ below) ∧ ∃ others : List Row,
      below.map (·.content) = others.map Row.text ∧ areRows (rows_above ++ others) = true :=
    ⟨ended, rows_below, same_below.symm, valid⟩
  have among : Ended (above ++ (remarks ++ below)) ∧ ∃ others : List Row,
      (remarks ++ below).map (·.content) = others.map Row.text ∧
        areRows (rows_above ++ others) = true := by
    refine ⟨ended', _, ?_, areRows_insert all_contents valid⟩
    rw [List.map_append, List.map_append, texts, same_below]
  have wide := width_append above below
  have wide' := width_append above (remarks ++ below)
  have wide_below := width_append remarks below
  rw [alike_start ended, alike_start ended']
  rcases reads_rows (isValid_of_areRows valid) same_above.symm [] [] with
    refused | ⟨steps, bound, indents, tokens, goes⟩
  · have here := refused _ without (fuel - width above)
    have there := refused _ among (fuel' - width above)
    rw [Nat.sub_add_cancel (by omega)] at here there
    rw [here, there]
  · have here := goes _ without (fuel - steps)
    have there := goes _ among (fuel' - steps)
    rw [Nat.sub_add_cancel (by omega)] at here there
    rw [here, there, before, skipBelow_append_of_isRemark all]
    exact run_before_eq (areRows_of_append valid) same_below.symm (ended_of_append ended) (by omega)
      (by omega)

end Lexer

/-! ## A comment in a document -/

variable {above below comment : Text}

/-- A comment on a line of its own. -/
def commentLine (comment : Text) : Text := '#' :: (comment ++ ['\n'])

theorem meets_commentLine (comment below : Text) : Meets (commentLine comment) below :=
  meets_feed ('#' :: comment) below

/-- A comment in which no line ends is a comment on one line. -/
theorem isRemark_of_no_ending (missing : (comment.all fun c => (ending? c).isNone) = true) :
    ∀ line ∈ lines (commentLine comment), isRemark line.content = true := by
  have all : ∀ c ∈ '#' :: comment, ending? c = none :=
    List.forall_mem_cons.mpr ⟨by decide, fun c member =>
      Option.isNone_iff_eq_none.mp (List.all_eq_true.mp missing c member)⟩
  have whole : lines ('#' :: comment ++ ['\n']) = [⟨'#' :: comment, ['\n']⟩, ⟨[], []⟩] :=
    lines_of_no_ending all []
  rw [commentLine, ← List.cons_append, whole]
  simp [isRemark]

theorem tokens?_eq {t : Text} (unmarked : t.head? ≠ some '\uFEFF') :
    tokens? t =
      if t.all isAllowed then Lexer.run (2 * t.length + 2) (.start (lines t)) else none := by
  unfold tokens?
  split
  next rest => exact absurd rfl unmarked
  next => rfl

/-- The tokens of a document are the same with a comment in it, unless there is a character in the
comment that may stand in no document. -/
theorem tokens?_insert (mapping : IsMapping (above ++ below)) (meets : Meets above below)
    (all : ∀ line ∈ lines (commentLine comment), isRemark line.content = true) :
    tokens? (above ++ (commentLine comment ++ below)) =
      if comment.all isAllowed then tokens? (above ++ below) else none := by
  obtain ⟨rows, valid, same⟩ := mapping.rows
  obtain ⟨front, split_above⟩ := exists_lines_append above
  obtain ⟨remarks, split_comment⟩ := exists_lines_append (commentLine comment)
  have without := split_above below meets
  have among : lines (above ++ (commentLine comment ++ below)) =
      front ++ (remarks ++ lines below) := by
    have meets_comment : Meets above (commentLine comment ++ below) :=
      fun c last => ⟨(meets c last).1, fun _ feed => by cases feed⟩
    rw [split_above _ meets_comment, split_comment _ (meets_commentLine comment below)]
  have remarks_all : ∀ line ∈ remarks, isRemark line.content = true := by
    have alone := split_comment [] (meets_commentLine comment [])
    rw [List.append_nil] at alone
    intro line member
    exact all line (by rw [alone]; exact List.mem_append_left _ member)
  have unmarked : (above ++ (commentLine comment ++ below)).head? ≠ some '\uFEFF' := by
    have without := mapping.unmarked
    cases above with
    | nil => nofun
    | cons c above => exact without
  have allowed : (above ++ (commentLine comment ++ below)).all isAllowed =
      (comment.all isAllowed && (above ++ below).all isAllowed) := by
    have mark : isAllowed '#' = true := by decide
    have feed : isAllowed '\n' = true := by decide
    simp only [commentLine, List.all_append, List.all_cons, List.all_nil, mark, feed]
    simp only [Bool.true_and, Bool.and_true, Bool.and_left_comm]
  have width_without := width_lines_le (above ++ below)
  have width_among := width_lines_le (above ++ (commentLine comment ++ below))
  have ended := ended_lines (above ++ below)
  have ended' := ended_lines (above ++ (commentLine comment ++ below))
  rw [without] at same ended width_without
  rw [among] at ended' width_among
  have read : Lexer.run (2 * (above ++ (commentLine comment ++ below)).length + 2) _ =
      Lexer.run (2 * (above ++ below).length + 2) _ :=
    Lexer.run_insert valid same remarks_all ended ended' (by omega) (by omega)
  rw [tokens?_eq unmarked, tokens?_eq mapping.unmarked, among, without, read, allowed]
  cases comment.all isAllowed with
  | false => rfl
  | true => rfl

/-- The same of the node of a document. -/
theorem ofText?_insert (mapping : IsMapping (above ++ below)) (meets : Meets above below)
    (all : ∀ line ∈ lines (commentLine comment), isRemark line.content = true) :
    Node.ofText? (above ++ (commentLine comment ++ below)) =
      if comment.all isAllowed then Node.ofText? (above ++ below) else none := by
  rw [Node.ofText?, tokens?_insert mapping meets all]
  split
  · rfl
  · rfl

end UploadInbox.Yaml
