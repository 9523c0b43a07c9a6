import UploadInbox.Yaml.Line

/-!
# Texts and their lines

A text that is cut behind the ending of a line falls into lines on both sides of the cut. All lines
but the last have an ending. A line with nothing but a comment in it, or with nothing at all, is
passed over wherever there is something to be looked for below a line.
-/
namespace UploadInbox.Yaml

/-- Only the last of some lines lacks an ending. -/
def Ended : List Line → Prop
  | [] => True
  | line :: below => (line.ending = [] → below = []) ∧ Ended below

/-- The number of characters in some lines, their endings not counted. -/
def width : List Line → Nat
  | [] => 0
  | line :: below => line.content.length + width below

/-- Whether there is nothing in a line but a comment, if that. -/
def isRemark (content : Text) : Bool := (content.dropWhile (· = ' ')).head?.all (· = '#')

/-- A line may begin between two texts: the first is empty or ends with the ending of a line, and
the second does not go on with that ending. -/
def Meets (above below : Text) : Prop :=
  ∀ c ∈ above.getLast?, (ending? c).isSome = true ∧ (c = '\r' → below.head? ≠ some '\n')

variable {t : Text} {ls : List Line}

theorem ended_cons {line : Line} (ending : line.ending ≠ []) (ended : Ended ls) :
    Ended (line :: ls) :=
  ⟨fun missing => absurd missing ending, ended⟩

theorem ended_of_append {above : List Line} (ended : Ended (above ++ ls)) : Ended ls := by
  induction above with
  | nil => exact ended
  | cons line above ih => exact ih ended.2

theorem ending_ne_nil {c : Char} {ending : Text} (found : ending? c = some ending) :
    ending ≠ [] := by
  rintro rfl
  unfold ending? at found
  split at found
  · cases found
  · split at found
    · cases found
    · cases found

theorem ended_lines (t : Text) : Ended (lines t) := by
  fun_induction lines t with
  | case1 => exact ⟨fun _ => rfl, trivial⟩
  | case2 rest ih => exact ended_cons (by simp) ih
  | case3 c rest _ ending found ih => exact ended_cons (ending_ne_nil found) ih
  | case4 c rest _ _ none_below ih => exact ⟨fun _ => rfl, trivial⟩
  | case5 c rest _ _ line below same ih =>
    rw [same] at ih
    exact ih

theorem width_append (above below : List Line) :
    width (above ++ below) = width above + width below := by
  induction above with
  | nil => exact (Nat.zero_add _).symm
  | cons line above ih => rw [List.cons_append, width, ih, width, Nat.add_assoc]

theorem width_lines_le (t : Text) : width (lines t) ≤ t.length := by
  fun_induction lines t with
  | case1 => exact Nat.le_refl 0
  | case2 rest ih =>
    simp only [width, List.length_cons, List.length_nil]
    omega
  | case3 c rest _ ending found ih =>
    simp only [width, List.length_cons, List.length_nil]
    omega
  | case4 c rest _ _ none_below ih =>
    simp only [width, List.length_cons, List.length_nil]
    omega
  | case5 c rest _ _ line below same ih =>
    rw [same] at ih
    simp only [width, List.length_cons] at ih ⊢
    omega

/-! ## Lines on both sides of a cut -/

theorem lines_cons_of_ending {c : Char} {ending : Text} (found : ending? c = some ending)
    (alone : c = '\r' → t.head? ≠ some '\n') : lines (c :: t) = ⟨[], ending⟩ :: lines t := by
  rw [lines]
  · rw [found]
  · rintro rest rfl rfl
    exact alone rfl rfl

theorem lines_cons_of_no_ending {c : Char} {line : Line} (missing : ending? c = none)
    (same : lines t = line :: ls) :
    lines (c :: t) = { line with content := c :: line.content } :: ls := by
  rw [lines]
  · rw [missing, same]
  · rintro rest rfl rfl
    exact absurd missing (by decide)

theorem exists_lines_append_ending (a : Text) {c : Char} (ends : (ending? c).isSome = true) :
    ∃ line above, ∀ b, (c = '\r' → b.head? ≠ some '\n') →
      lines (a ++ c :: b) = line :: above ++ lines b := by
  obtain ⟨ending, found⟩ := Option.isSome_iff_exists.mp ends
  match a with
  | [] => exact ⟨⟨[], ending⟩, [], fun b alone => lines_cons_of_ending found alone⟩
  | d :: rest =>
    by_cases joined : d = '\r' ∧ (rest ++ [c]).head? = some '\n'
    · obtain ⟨rfl, feed⟩ := joined
      match rest with
      | [] =>
        obtain rfl : c = '\n' := Option.some.inj feed
        exact ⟨⟨[], ['\n']⟩, [], fun b _ => by simp [lines]⟩
      | e :: rest =>
        obtain rfl : e = '\n' := Option.some.inj feed
        obtain ⟨line, above, split⟩ := exists_lines_append_ending rest ends
        refine ⟨⟨[], ['\n']⟩, line :: above, fun b alone => ?_⟩
        rw [List.cons_append, List.cons_append, lines, split b alone]
        rfl
    · have apart (b : Text) : d = '\r' → (rest ++ c :: b).head? ≠ some '\n' := by
        rintro rfl feed
        refine joined ⟨rfl, ?_⟩
        cases rest with
        | nil => exact feed
        | cons e rest => exact feed
      obtain ⟨line, above, split⟩ := exists_lines_append_ending rest ends
      cases own : ending? d with
      | some ending =>
        refine ⟨⟨[], ending⟩, line :: above, fun b alone => ?_⟩
        rw [List.cons_append, lines_cons_of_ending own (apart b), split b alone]
        rfl
      | none =>
        refine ⟨{ line with content := d :: line.content }, above, fun b alone => ?_⟩
        rw [List.cons_append, lines_cons_of_no_ending own (split b alone)]
        rfl

/-- A text has the same lines in front of everything that may follow it on a new line. -/
theorem exists_lines_append (a : Text) :
    ∃ above, ∀ b, Meets a b → lines (a ++ b) = above ++ lines b := by
  cases last : a.getLast? with
  | none =>
    rw [List.getLast?_eq_none_iff] at last
    exact ⟨[], fun b _ => by rw [last, List.nil_append, List.nil_append]⟩
  | some c =>
    obtain ⟨before, rfl⟩ := List.getLast?_eq_some_iff.mp last
    by_cases ends : (ending? c).isSome = true
    · obtain ⟨line, above, split⟩ := exists_lines_append_ending before ends
      refine ⟨line :: above, fun b meets => ?_⟩
      rw [List.append_assoc]
      exact split b (meets c last).2
    · exact ⟨[], fun b meets => absurd (meets c last).1 ends⟩

/-- A line begins behind a line feed, whatever is on it. -/
theorem meets_feed (before below : Text) : Meets (before ++ ['\n']) below := by
  intro c last
  rw [List.getLast?_concat] at last
  obtain rfl : '\n' = c := Option.some.inj last
  exact ⟨rfl, nofun⟩

/-- A text without the ending of a line in it is a single line. -/
theorem lines_of_no_ending (missing : ∀ c ∈ t, ending? c = none) (rest : Text) :
    lines (t ++ '\n' :: rest) = ⟨t, ['\n']⟩ :: lines rest := by
  induction t with
  | nil => rfl
  | cons c t ih =>
    have here := missing c List.mem_cons_self
    have below := ih fun d member => missing d (List.mem_cons_of_mem _ member)
    exact lines_cons_of_no_ending here below

/-! ## Lines that are passed over -/

theorem skipInLine_false (t : Text) :
    skipInLine false t =
      if (t.dropWhile (· = ' ')).head? = some '#' then [] else t.dropWhile (· = ' ') := by
  have spaces : t.dropWhile (fun c => c = ' ' || (false && c = '\t')) = t.dropWhile (· = ' ') := by
    simp only [Bool.false_and, Bool.or_false]
  unfold skipInLine
  rw [spaces]
  split
  next rest left => rw [left, List.head?_cons, if_pos rfl]
  next other =>
    rw [if_neg]
    intro mark
    obtain ⟨rest, left⟩ := List.head?_eq_some_iff.mp mark
    exact other rest left

theorem isRemark_iff : isRemark t = true ↔ skipInLine false t = [] := by
  rw [isRemark, skipInLine_false]
  cases left : t.dropWhile (· = ' ') with
  | nil => simp
  | cons c rest => simp

theorem skipBelow_cons_of_isRemark {line : Line} (remark : isRemark line.content = true)
    (below : List Line) : skipBelow false (line :: below) = skipBelow false below := by
  rw [skipBelow, isRemark_iff.mp remark]

theorem skipBelow_append_of_isRemark {remarks : List Line}
    (all : ∀ line ∈ remarks, isRemark line.content = true) (below : List Line) :
    skipBelow false (remarks ++ below) = skipBelow false below := by
  induction remarks with
  | nil => rfl
  | cons line remarks ih =>
    rw [List.cons_append, skipBelow_cons_of_isRemark (all line List.mem_cons_self),
      ih fun other member => all other (List.mem_cons_of_mem _ member)]

/-- There is nothing to be passed over at the place that is found. -/
theorem skipBelow_cases (below : List Line) :
    skipBelow false below = ⟨0, [], [], []⟩ ∨
      ∃ c rest, (skipBelow false below).rest = c :: rest ∧
        skipInLine false (c :: rest) = c :: rest := by
  induction below with
  | nil => exact .inl rfl
  | cons line below ih =>
    rw [skipBelow]
    cases left : skipInLine false line.content with
    | nil => exact ih
    | cons c rest =>
      refine .inr ⟨c, rest, rfl, ?_⟩
      have first := List.head?_dropWhile_not (fun c : Char => decide (c = ' ')) line.content
      rw [skipInLine_false] at left
      split at left
      next => cases left
      next mark =>
        rw [left] at first mark
        have space : c ≠ ' ' := by simpa using first
        have whole : (c :: rest).dropWhile (· = ' ') = c :: rest := by simp [space]
        rw [skipInLine_false, whole, if_neg mark]

end UploadInbox.Yaml
