import UploadInbox.Proofs.Yaml.Lines
import UploadInbox.Yaml.Token

/-!
# Steps of the lexer outside brackets

What a step does is settled by what is left of the line, up to the end of it: there nothing is kept
but the open blocks and the tokens, and reading goes on before the lines below. At the end of a
document all blocks are closed. A colon turns what has been read since its key began into a member
of the block at the column of the key.
-/
namespace UploadInbox.Yaml.Lexer

variable {indents : List Nat} {candidate : Option Candidate} {allowed : Bool}
  {tokens : List Token} {cursor : Cursor} {below : List Line} {l l' : Lexer} {c : Char}
  {left : Text}

/-! ## Keys that are offered -/

/-- What a token at a place is if a colon follows it. -/
def offered (indents : List Nat) (allowed : Bool) (tokens : List Token) (column : Nat) :
    Option Candidate :=
  if allowed then some ⟨tokens.length, column, indents.head? == some column⟩ else none

theorem saveCandidate_eq :
    (Lexer.mk indents none [] allowed tokens cursor).saveCandidate =
      some ⟨indents, offered indents allowed tokens cursor.column, [], allowed, tokens,
        cursor⟩ := by
  cases allowed with
  | false => rfl
  | true => rfl

theorem moveTo_below {goal : Cursor} (same : goal.below = cursor.below) :
    (Lexer.mk indents candidate [] allowed tokens cursor).moveTo goal =
      some ⟨indents, candidate, [], allowed, tokens, goal⟩ := by
  rw [moveTo, if_pos (by rw [same])]

theorem moveTo_of_candidate_none {goal : Cursor} :
    (Lexer.mk indents none [] allowed tokens cursor).moveTo goal =
      some ⟨indents, none, [], allowed, tokens, goal⟩ := by
  unfold moveTo
  split
  · rfl
  · rfl

/-! ## The lines below -/

/-- Before some lines, inside blocks of given indentations and after given tokens. -/
def before (indents : List Nat) (tokens : List Token) (below : List Line) : Lexer :=
  ⟨indents, none, [], true, tokens, skipBelow false below⟩

/-- Two states from which the same is read. -/
def Alike (l l' : Lexer) : Prop := ∀ fuel, run fuel l = run fuel l'

theorem run_of_step_none (refused : l.step = none) (fuel : Nat) : run fuel l = none := by
  cases fuel with
  | zero => rfl
  | succ fuel => rw [run, refused]

theorem run_of_step (stepped : l.step = some l') (goes : l'.indents ≠ [] ∨ l'.cursor.rest ≠ [])
    (fuel : Nat) : run (fuel + 1) l = run fuel l' := by
  have more : l'.atEnd = false := by
    rcases goes with inside | left
    · simp [atEnd, inside]
    · simp [atEnd, left]
  rw [run, stepped]
  simp [more]

theorem alike_of_skipTrivia (same : l.skipTrivia = l'.skipTrivia) : Alike l l' := by
  intro fuel
  cases fuel with
  | zero => rfl
  | succ fuel => rw [run, run, step, step, same]

theorem skipTrivia_of_cons {rest : Text} (here : skipInLine (!allowed) cursor.rest = c :: rest) :
    (Lexer.mk indents candidate [] allowed tokens cursor).skipTrivia =
      some ⟨indents, candidate, [], allowed, tokens, cursor.leaving (c :: rest)⟩ := by
  unfold skipTrivia
  simp only [flow, List.isEmpty_nil, Bool.not_true, Bool.false_or, here]

theorem skipTrivia_of_nil (here : skipInLine (!allowed) cursor.rest = [])
    (ends : cursor.ending ≠ []) :
    (Lexer.mk indents none [] allowed tokens cursor).skipTrivia =
      some (before indents tokens cursor.below) := by
  unfold skipTrivia
  simp only [flow, List.isEmpty_nil, Bool.not_true, Bool.false_or, here,
    List.isEmpty_eq_false_iff.mpr ends]
  exact moveTo_of_candidate_none

theorem skipTrivia_of_last (here : skipInLine (!allowed) cursor.rest = [])
    (last : cursor.ending = []) :
    (Lexer.mk indents candidate [] allowed tokens cursor).skipTrivia =
      some ⟨indents, candidate, [], allowed, tokens, ⟨cursor.column, [], [], []⟩⟩ := by
  unfold skipTrivia
  simp only [flow, List.isEmpty_nil, Bool.not_true, Bool.false_or, here, last]
  rfl

/-- At the end of the document all blocks are closed. -/
theorem run_at_end {column : Nat}
    (skipped : l.skipTrivia = some ⟨indents, none, [], allowed, tokens, ⟨column, [], [], []⟩⟩)
    (fuel : Nat) :
    run (fuel + 1) l = some (indents.map (fun _ => Token.blockEnd) ++ tokens).reverse := by
  have stepped : l.step = some ⟨[], none, [], allowed,
      indents.map (fun _ => Token.blockEnd) ++ tokens, ⟨column, [], [], []⟩⟩ := by
    have all (indents : List Nat) : indents.takeWhile (fun _ => true) = indents ∧
        indents.dropWhile (fun _ => true) = [] := by
      induction indents with
      | nil => exact ⟨rfl, rfl⟩
      | cons n indents ih => simp [ih]
    rw [step, skipped]
    simp [close, dropCandidate, all]
  rw [run, stepped]
  rfl

/-- There is nothing to be passed over before lines. -/
theorem skipTrivia_before :
    (before indents tokens below).skipTrivia = some (before indents tokens below) := by
  rcases skipBelow_cases below with ended | ⟨c, rest, here, solid⟩
  · rw [before, ended]
    exact skipTrivia_of_last rfl rfl
  · rw [before, skipTrivia_of_cons (by rw [here]; exact solid), Cursor.leaving, here, Nat.sub_self,
      Nat.add_zero, ← here]

/-- At the end of a line, reading goes on before the lines below. -/
theorem alike_before (here : skipInLine (!allowed) cursor.rest = [])
    (last : cursor.ending = [] → cursor.below = []) :
    Alike ⟨indents, none, [], allowed, tokens, cursor⟩ (before indents tokens cursor.below) := by
  by_cases ends : cursor.ending = []
  · rw [last ends]
    intro fuel
    cases fuel with
    | zero => rfl
    | succ fuel =>
      rw [run_at_end (skipTrivia_of_last here ends), run_at_end (skipTrivia_before)]
  · exact alike_of_skipTrivia ((skipTrivia_of_nil here ends).trans skipTrivia_before.symm)

theorem step_of_cons {rest : Text} (here : skipInLine (!allowed) cursor.rest = c :: rest) :
    (Lexer.mk indents candidate [] allowed tokens cursor).step =
      ((Lexer.mk indents candidate [] allowed tokens (cursor.leaving (c :: rest))).expire
        fun candidate => candidate.column + 1024 < (cursor.leaving (c :: rest)).column).bind
          fun l => l.unroll.dispatch c rest := by
  rw [step, skipTrivia_of_cons here]
  rfl

theorem expire_of_eq_false {p : Candidate → Bool} {key : Candidate} (kept : p key = false) :
    (Lexer.mk indents (some key) [] allowed tokens cursor).expire p =
      some ⟨indents, some key, [], allowed, tokens, cursor⟩ := by
  simp [expire, kept]

/-- No block is closed inside the innermost one. -/
theorem unroll_of_le (inside : ∀ n ∈ indents.head?, n ≤ cursor.column) :
    (Lexer.mk indents candidate [] allowed tokens cursor).unroll =
      ⟨indents, candidate, [], allowed, tokens, cursor⟩ := by
  cases indents with
  | nil => rfl
  | cons n indents =>
    have within : ¬ cursor.column < n := Nat.not_lt.mpr (inside n rfl)
    simp [unroll, flow, close, within]

theorem head_unroll_le {column : Nat} :
    ∀ n ∈ (indents.dropWhile (column < ·)).head?, n ≤ column := by
  intro n first
  have outside := List.head?_dropWhile_not (fun n => decide (column < n)) indents
  rw [first] at outside
  exact Nat.not_lt.mp (of_decide_eq_false outside)

/-! ## The colon -/

/-- The colon behind a key makes it a member of the block at its column. -/
theorem readValue_of_candidate {key : Candidate} (tokens : List Token)
    (inside : ∀ n ∈ indents.head?, n ≤ key.column) :
    ∃ indents' tokens', indents'.head? = some key.column ∧ ∀ allowed cursor,
      (Lexer.mk indents (some key) [] allowed tokens cursor).readValue =
        some ⟨indents', none, [], false, tokens', cursor.advance 1⟩ := by
  -- The tokens do not depend on the place, so they can be told from any.
  let keyed : Lexer :=
    (Lexer.mk indents none [] false tokens ⟨0, [], [], []⟩).insert key.place .key
  by_cases opens : indents.head?.all (· < key.column) = true
  · refine ⟨key.column :: indents, .value :: (keyed.insert key.place .mappingStart).tokens, rfl,
      fun allowed cursor => ?_⟩
    simp only [readValue, insert, roll, flow, List.isEmpty_nil, Bool.not_true, Bool.not_false,
      Bool.true_and, opens, if_true]
    rfl
  · refine ⟨indents, .value :: keyed.tokens, ?_, fun allowed cursor => ?_⟩
    · cases indents with
      | nil => exact absurd rfl opens
      | cons n indents =>
        have least := inside n rfl
        have most : ¬ n < key.column := by simpa using opens
        exact congrArg some (Nat.le_antisymm least (Nat.not_lt.mp most))
    · rw [Bool.not_eq_true] at opens
      simp only [readValue, insert, roll, flow, List.isEmpty_nil, Bool.not_true, Bool.not_false,
        Bool.true_and, opens]
      rfl

theorem dispatch_colon {after : Text} (ends : endsWord after = true) :
    l.dispatch ':' after = l.readValue := by
  simp [dispatch, ends]

/-- The colon is found on the line of its key, or the key is too long. -/
theorem step_colon (key : Candidate) (tokens : List Token) {column : Nat} {after : Text}
    (inside : ∀ n ∈ indents.head?, n ≤ key.column) (behind : key.column ≤ column)
    (found : skipInLine true left = ':' :: after) (ends : endsWord after = true) :
    ∃ (outcome : Option (List Nat × List Token)) (place : Nat), key.column < place ∧
      (∀ o ∈ outcome, o.1.head? = some key.column) ∧ ∀ ending below,
        (Lexer.mk indents (some key) [] false tokens ⟨column, left, ending, below⟩).step =
          outcome.map fun o => ⟨o.1, none, [], false, o.2, ⟨place, after, ending, below⟩⟩ := by
  obtain ⟨indents', tokens', innermost, reads⟩ := readValue_of_candidate tokens inside
  obtain ⟨place, at_colon⟩ : ∃ place, place = column + (left.length - (after.length + 1)) :=
    ⟨_, rfl⟩
  have place_le : key.column ≤ place := by omega
  have moved (ending : Text) (below : List Line) :
      (Cursor.mk column left ending below).leaving (':' :: after) =
        ⟨place, ':' :: after, ending, below⟩ := by
    rw [at_colon]
    rfl
  have stepped (ending : Text) (below : List Line) :
      (Lexer.mk indents (some key) [] false tokens ⟨column, left, ending, below⟩).step = _ :=
    step_of_cons found
  have unrolled (candidate : Option Candidate) (ending : Text) (below : List Line) :
      (Lexer.mk indents candidate [] false tokens
        ⟨place, ':' :: after, ending, below⟩).unroll = _ :=
    unroll_of_le fun n first => Nat.le_trans (inside n first) place_le
  by_cases far : key.column + 1024 < place
  · refine ⟨none, place + 1, Nat.lt_succ_of_le place_le, nofun, fun ending below => ?_⟩
    rw [stepped, moved]
    by_cases required : key.required = true
    · simp [expire, far, required]
    · simp [expire, far, required, unrolled, dispatch_colon ends, readValue, flow]
  · refine ⟨some (indents', tokens'), place + 1, Nat.lt_succ_of_le place_le, ?_, ?_⟩
    · intro o outcome
      cases outcome
      exact innermost
    · intro ending below
      rw [stepped, moved, expire_of_eq_false (by simpa using far), Option.bind_some, unrolled,
        dispatch_colon ends, reads]
      rfl

end UploadInbox.Yaml.Lexer
