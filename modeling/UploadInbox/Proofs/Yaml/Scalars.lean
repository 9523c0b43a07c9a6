import UploadInbox.Proofs.Yaml.Steps

/-!
# Scalars in a single line

A scalar that is written in one line, plain or between quotes, is read to its end whatever follows
it on the line, as long as it cannot be taken for more of the scalar. What comes of an escape
between double quotes is left open: it may be refused, but it never reaches past the closing quote.
-/
namespace UploadInbox.Yaml

/-- A scalar as it is written in one line. -/
inductive Scalar where
  | plain (text : Text)
  /-- Between single quotes, each quote of the value written twice. -/
  | single (value : Text)
  | double (written : Text)
  deriving DecidableEq, Repr

/-- Whether a plain scalar goes on with a text, after a blank or not: no colon ends a word of it,
and no mark of a comment begins one. -/
def goesOn (blank : Bool) : Text → Bool
  | [] => true
  | c :: rest =>
    !(c = '#' && blank) && !(c = ':' && endsWord rest) && goesOn (isBlank c) rest

def isPlain : Text → Bool
  | [] => false
  | c :: rest =>
    Lexer.startsPlain false c rest && goesOn false (c :: rest)
      && (c :: rest).getLast?.all (!isBlank ·)

/-- Whether every quote in a text stands behind a backslash of its own. -/
def isEscaped : Text → Bool
  | [] => true
  | ['\\'] => false
  | '\\' :: _ :: rest => isEscaped rest
  | c :: rest => c ≠ '"' && isEscaped rest

namespace Scalar

def text : Scalar → Text
  | plain text => text
  | single value => '\'' :: (Text.exchange '\'' ['\'', '\''] value ++ ['\''])
  | double written => '"' :: (written ++ ['"'])

def isValid : Scalar → Bool
  | plain text => isPlain text
  | single _ => true
  | double written => isEscaped written

end Scalar

variable {t tail left : Text} {c : Char}

/-! ## Plain scalars -/

theorem endsWord_append {c : Char} (rest : Text) :
    endsWord (c :: rest ++ tail) = endsWord (c :: rest) :=
  rfl

/-- A plain scalar is read as a whole where what follows is none of it. -/
theorem plainSegment_append {s : Text} (blanks : Text) (some_text : s ≠ [])
    (goes : goesOn (!blanks.isEmpty) s = true) (last : s.getLast?.all (!isBlank ·) = true)
    (stops : plainSegment false [] tail = some ([], left)) :
    plainSegment false blanks (s ++ tail) = some (blanks ++ s, left) := by
  induction s generalizing blanks with
  | nil => exact absurd rfl some_text
  | cons c rest ih =>
    simp only [goesOn, Bool.and_eq_true, Bool.not_eq_true'] at goes
    obtain ⟨⟨no_comment, no_colon⟩, goes⟩ := goes
    rw [List.cons_append, plainSegment]
    cases rest with
    | nil =>
      have solid : isBlank c = false := by simpa using last
      have other : c ≠ ':' := by
        rintro rfl
        cases no_colon
      simp [solid, no_comment, other, stops]
    | cons d rest =>
      have last_below : (d :: rest).getLast?.all (!isBlank ·) = true := by
        rwa [List.getLast?_cons_cons] at last
      by_cases blank : isBlank c = true
      · rw [blank] at goes
        have counted : (!(blanks ++ [c]).isEmpty) = true := by simp
        have here := ih (blanks ++ [c]) nofun (by rw [counted, goes]) last_below
        rw [if_pos blank, here, List.append_assoc]
        rfl
      · rw [Bool.not_eq_true] at blank
        rw [blank] at goes
        have here := ih [] nofun goes last_below
        rw [List.nil_append] at here
        rw [endsWord_append, no_comment, no_colon, here]
        simp [blank]

theorem plainSegment_of_isBlank {pad : Text} (all : pad.all isBlank = true) (blanks t : Text) :
    plainSegment false blanks (pad ++ t) = plainSegment false (blanks ++ pad) t := by
  induction pad generalizing blanks with
  | nil => rw [List.nil_append, List.append_nil]
  | cons c pad ih =>
    simp only [List.all_cons, Bool.and_eq_true] at all
    rw [List.cons_append, plainSegment, if_pos all.1, ih all.2, List.append_assoc]
    rfl

/-! ## Quoted scalars -/

/-- Between single quotes the value is read that was written there. -/
theorem singleSegment_exchange (value blanks : Text) (apart : tail.head? ≠ some '\'') :
    singleSegment blanks (Text.exchange '\'' ['\'', '\''] value ++ '\'' :: tail) =
      .closed (blanks ++ value) tail := by
  induction value generalizing blanks with
  | nil =>
    rw [Text.exchange, List.flatMap_nil, List.nil_append, List.append_nil, singleSegment]
    · rfl
    · rintro rest - rfl
      exact apart rfl
  | cons c value ih =>
    by_cases quote : c = '\''
    · have shape : Text.exchange '\'' ['\'', '\''] (c :: value) =
          '\'' :: '\'' :: Text.exchange '\'' ['\'', '\''] value := by
        simp [Text.exchange, quote]
      rw [shape, List.cons_append, List.cons_append, singleSegment, ih, Segment.prepend, quote,
        List.nil_append, List.append_assoc]
      rfl
    · have shape : Text.exchange '\'' ['\'', '\''] (c :: value) =
          c :: Text.exchange '\'' ['\'', '\''] value := by
        simp [Text.exchange, quote]
      rw [shape, List.cons_append, singleSegment, if_neg quote]
      · split
        next blank =>
          rw [ih, List.append_assoc]
          rfl
        next solid =>
          rw [ih, Segment.prepend, List.nil_append, List.append_assoc]
          rfl
      · rintro rest rfl
        exact absurd rfl quote

/-- A number in hexadecimal digits has no other characters in it. -/
theorem isSome_value_of_codePoint {digits : Text} {d : Char} (found : codePoint? digits = some c)
    (member : d ∈ digits) : (Hex.value? d).isSome = true := by
  have every (digits : Text) (front : Option Nat) (n : Nat)
      (read : digits.foldl (fun value c => do return (← value) * 16 + (← Hex.value? c)) front =
        some n) : front.isSome = true ∧ ∀ d ∈ digits, (Hex.value? d).isSome = true := by
    induction digits generalizing front with
    | nil =>
      obtain rfl : front = some n := read
      exact ⟨rfl, nofun⟩
    | cons d digits ih =>
      obtain ⟨here, below⟩ := ih _ read
      cases front with
      | none => cases here
      | some m =>
        cases value : Hex.value? d with
        | none => simp [value] at here
        | some v => exact ⟨rfl, List.forall_mem_cons.mpr ⟨by rw [value]; rfl, below⟩⟩
  unfold codePoint? at found
  dsimp only at found
  split at found
  next n read => exact (every digits (some 0) n read).2 d member
  next => cases found

theorem isEscaped_cons {rest : Text} (other : c ≠ '\\') :
    isEscaped (c :: rest) = (c ≠ '"' && isEscaped rest) := by
  rw [isEscaped]
  · simp [other]
  · simp [other]

/-- The digits of a number stand before the closing quote. -/
theorem exists_of_codePoint {written digits rest : Text} (escaped : isEscaped written = true)
    (same : written ++ '"' :: tail = digits ++ rest) (found : codePoint? digits = some c) :
    ∃ more, written = digits ++ more ∧ rest = more ++ '"' :: tail ∧ isEscaped more = true := by
  have apart (d : Char) (member : d ∈ digits) : d ≠ '"' ∧ d ≠ '\\' := by
    have digit := isSome_value_of_codePoint found member
    refine ⟨?_, ?_⟩
    · rintro rfl
      cases digit
    · rintro rfl
      cases digit
  clear found
  induction digits generalizing written with
  | nil => exact ⟨written, rfl, same.symm, escaped⟩
  | cons d digits ih =>
    obtain ⟨no_quote, no_backslash⟩ := apart d List.mem_cons_self
    cases written with
    | nil => exact absurd (List.cons.inj same).1.symm no_quote
    | cons e written =>
      obtain ⟨rfl, below⟩ := List.cons.inj same
      rw [isEscaped_cons no_backslash, Bool.and_eq_true] at escaped
      obtain ⟨more, rfl, behind, escaped⟩ :=
        ih escaped.2 below fun d member => apart d (List.mem_cons_of_mem _ member)
      exact ⟨more, rfl, behind, escaped⟩

/-- Reading a line between quotes is refused, or the scalar ends and a given rest is left. -/
def ClosesAt (tail : Text) (read : Option Segment) : Prop :=
  ∀ segment ∈ read, ∃ text, segment = .closed text tail

theorem ClosesAt.map_prepend {read : Option Segment} (closes : ClosesAt tail read) (front : Text) :
    ClosesAt tail (read.map (·.prepend front)) := by
  intro segment member
  obtain ⟨other, there, rfl⟩ := Option.map_eq_some_iff.mp member
  obtain ⟨text, rfl⟩ := closes other there
  exact ⟨front ++ text, rfl⟩

theorem ClosesAt.bind_prepend {found : Option Char} {read : Option Segment}
    (closes : ∀ c, found = some c → ClosesAt tail read) (front : Char → Text) :
    ClosesAt tail (do
      let c ← found
      return (← read).prepend (front c)) := by
  intro segment member
  obtain ⟨c, here, member⟩ := Option.bind_eq_some_iff.mp member
  obtain ⟨other, there, same⟩ := Option.bind_eq_some_iff.mp member
  obtain rfl := Option.some.inj same
  obtain ⟨text, rfl⟩ := closes c here other there
  exact ⟨front c ++ text, rfl⟩

theorem doubleSegment_cons {blanks rest : Text} (other : c ≠ '\\') :
    doubleSegment blanks (c :: rest) =
      if c = '"' then some (.closed blanks rest)
      else if isBlank c then doubleSegment (blanks ++ [c]) rest
      else (doubleSegment [] rest).map (·.prepend (blanks ++ [c])) := by
  rw [doubleSegment]
  all_goals simp [other]

/-- No escape reaches past the closing quote. -/
theorem doubleSegment_append (written blanks : Text) (escaped : isEscaped written = true) :
    ClosesAt tail (doubleSegment blanks (written ++ '"' :: tail)) := by
  match written with
  | [] =>
    have closed : doubleSegment blanks ('"' :: tail) = some (.closed blanks tail) := by
      rw [doubleSegment_cons (by decide), if_pos rfl]
    intro segment member
    rw [List.nil_append, closed] at member
    exact ⟨blanks, (Option.some.inj member).symm⟩
  | c :: more =>
    by_cases backslash : c = '\\'
    · subst backslash
      cases more with
      | nil => cases escaped
      | cons c more =>
        have escaped_below : isEscaped more = true := by simpa [isEscaped] using escaped
        have numbered {digits rest : Text} {d : Char}
            (same : '\\' :: c :: (more ++ '"' :: tail) = '\\' :: c :: (digits ++ rest))
            (found : codePoint? digits = some d) : ClosesAt tail (doubleSegment [] rest) := by
          have behind := (List.cons.inj (List.cons.inj same).2).2
          obtain ⟨left, shorter, rfl, escaped⟩ := exists_of_codePoint escaped_below behind found
          exact doubleSegment_append left [] escaped
        rw [List.cons_append, List.cons_append]
        unfold doubleSegment
        split
        next same => cases same
        next same => simp at same
        next a b rest same =>
          obtain rfl := (List.cons.inj (List.cons.inj same).2).1
          exact .bind_prepend (fun _ => numbered same) _
        next a b c d rest same =>
          obtain rfl := (List.cons.inj (List.cons.inj same).2).1
          exact .bind_prepend (fun _ => numbered same) _
        next a b c d e f g h rest same =>
          obtain rfl := (List.cons.inj (List.cons.inj same).2).1
          exact .bind_prepend (fun _ => numbered same) _
        next d rest _ _ _ _ same =>
          obtain ⟨rfl, rfl⟩ := List.cons.inj (List.cons.inj same).2
          exact .bind_prepend (fun _ _ => doubleSegment_append more [] escaped_below) _
        next d rest _ _ _ _ other same =>
          cases same
          exact (other _ _ rfl rfl).elim
    · rw [isEscaped_cons backslash, Bool.and_eq_true, decide_eq_true_eq] at escaped
      rw [List.cons_append, doubleSegment_cons backslash, if_neg escaped.1]
      split
      next blank => exact doubleSegment_append more _ escaped.2
      next solid => exact (doubleSegment_append more [] escaped.2).map_prepend _
termination_by written.length

/-! ## Scalars as tokens -/

theorem ne_of_startsPlain {d : Char} {rest : Text} (starts : Lexer.startsPlain false c rest = true)
    (mark : Lexer.startsPlain false d rest = false) : c ≠ d := by
  rintro rfl
  rw [mark] at starts
  cases starts

namespace Scalar

/-- What may follow a scalar on its line, and what is left of that when it has been read: none of it
may be taken for more of the scalar. -/
def Stops (s : Scalar) (tail left : Text) : Prop :=
  match s with
  | plain _ => plainSegment false [] tail = some ([], left) ∧ left ≠ []
  | single _ => tail.head? ≠ some '\'' ∧ left = tail
  | double _ => left = tail

/-- The first character of a scalar is neither blank nor the mark of a comment. -/
theorem exists_text_eq {s : Scalar} (valid : s.isValid = true) :
    ∃ c rest, s.text = c :: rest ∧ isBlank c = false ∧ c ≠ '#' := by
  cases s with
  | plain text =>
    cases text with
    | nil => cases valid
    | cons c rest =>
      refine ⟨c, rest, rfl, ?_⟩
      simp only [isValid, isPlain, Bool.and_eq_true] at valid
      obtain ⟨⟨starts, -⟩, -⟩ := valid
      refine ⟨?_, ne_of_startsPlain starts rfl⟩
      have space : c ≠ ' ' := ne_of_startsPlain starts rfl
      have tab : c ≠ '\t' := ne_of_startsPlain starts rfl
      simp [isBlank, space, tab]
  | single value => exact ⟨'\'', _, rfl, rfl, by decide⟩
  | double written => exact ⟨'"', _, rfl, rfl, by decide⟩

end Scalar

namespace Lexer

variable {indents : List Nat} {allowed : Bool} {tokens : List Token} {cursor : Cursor}

/-- A character that begins a plain scalar is no mark. -/
theorem dispatch_of_startsPlain {l : Lexer} {rest : Text} (block : l.flow = false)
    (starts : startsPlain false c rest = true)
    (unmarked : l.cursor.column = 0 → isMark (c :: rest) = false) :
    l.dispatch c rest = l.readPlain := by
  have apart {d : Char} (mark : startsPlain false d rest = false) : c ≠ d :=
    ne_of_startsPlain starts mark
  have apart_by_number {n : Nat} (valid : (Char.ofNat n).toNat = n)
      (mark : startsPlain false (Char.ofNat n) rest = false) : c.toNat ≠ n := by
    intro same
    exact apart mark (Char.toNat_inj.mp (same.trans valid.symm))
  have word {d : Char} (mark : startsPlain false d rest = !endsWord rest) :
      (decide (c = d) && endsWord rest) = false := by
    by_cases same : c = d
    · subst same
      rw [mark, Bool.not_eq_true'] at starts
      rw [starts, Bool.and_false]
    · simp [same]
  have line (d : Char) :
      (decide (l.cursor.column = 0) && decide (c = d) && isMark (c :: rest)) = false := by
    by_cases first : l.cursor.column = 0
    · rw [unmarked first, Bool.and_false]
    · simp [first]
  have brackets : c ≠ '[' ∧ c ≠ ']' ∧ c.toNat ≠ 0x7B ∧ c.toNat ≠ 0x7D :=
    ⟨apart rfl, apart rfl, apart_by_number rfl rfl, apart_by_number rfl rfl⟩
  simp [dispatch, block, starts, brackets, line, word (d := '-') rfl, word (d := '?') rfl,
    word (d := ':') rfl, apart (d := '%') rfl, apart (d := ',') rfl, apart (d := '*') rfl,
    apart (d := '&') rfl, apart (d := '!') rfl, apart (d := '|') rfl, apart (d := '>') rfl,
    apart (d := '\'') rfl, apart (d := '"') rfl]

theorem readQuoted_of_closed {segment : Text → Option Segment} {text : Text} {rest : Text}
    (here : cursor.rest = c :: rest) (closed : segment rest = some (.closed text left)) :
    (Lexer.mk indents none [] allowed tokens cursor).readQuoted segment =
      some ⟨indents, offered indents allowed tokens cursor.column, [], false,
        .scalar .quoted text :: tokens,
        ⟨cursor.column + (1 + (rest.length - left.length)), left, cursor.ending,
          cursor.below⟩⟩ := by
  have behind : (cursor.advance 1).rest = rest := by rw [Cursor.advance, here]; rfl
  have read : quoted? segment (cursor.advance 1) =
      some (text, (cursor.advance 1).leaving left) := by
    rw [quoted?, behind, closed]
  rw [readQuoted, saveCandidate_eq]
  simp only [Option.bind_eq_bind, Option.bind_some, read]
  refine (moveTo_below rfl).trans ?_
  rw [Cursor.leaving, behind, ← Nat.add_assoc]
  rfl

theorem readQuoted_of_refused {segment : Text → Option Segment} {rest : Text}
    (here : cursor.rest = c :: rest) (refused : segment rest = none) :
    (Lexer.mk indents none [] allowed tokens cursor).readQuoted segment = none := by
  have behind : (cursor.advance 1).rest = rest := by rw [Cursor.advance, here]; rfl
  have read : quoted? segment (cursor.advance 1) = none := by
    rw [quoted?, behind, refused]
  rw [readQuoted, saveCandidate_eq]
  simp only [Option.bind_eq_bind, Option.bind_some, read, Option.bind_none]

theorem readPlain_of_plain {plain : Plain}
    (read : plain? false (Lexer.mk indents none [] allowed tokens cursor).innerIndent cursor =
      some plain) (same : plain.cursor.below = cursor.below) :
    (Lexer.mk indents none [] allowed tokens cursor).readPlain =
      some ⟨indents, offered indents allowed tokens cursor.column, [], plain.ended,
        .scalar .plain plain.text :: tokens, plain.cursor⟩ := by
  have inner : (Lexer.mk indents (offered indents allowed tokens cursor.column) [] allowed tokens
      cursor).innerIndent = (Lexer.mk indents none [] allowed tokens cursor).innerIndent := rfl
  rw [readPlain, saveCandidate_eq]
  simp only [Option.bind_eq_bind, Option.bind_some]
  rw [inner, show (Lexer.mk indents _ [] allowed tokens cursor).flow = false from rfl, read]
  exact moveTo_below same

theorem dispatch_single (l : Lexer) (rest : Text) :
    l.dispatch '\'' rest = l.readQuoted fun t => some (singleSegment [] t) := by
  simp [dispatch]

theorem dispatch_double (l : Lexer) (rest : Text) :
    l.dispatch '"' rest = l.readQuoted (doubleSegment []) := by
  simp [dispatch]

/-- A plain scalar begins as one also where something follows it, and is read to its end. -/
theorem plain_append {text rest : Text} (valid : isPlain text = true)
    (same : text ++ tail = c :: rest) (stops : plainSegment false [] tail = some ([], left)) :
    startsPlain false c rest = true ∧ plainSegment false [] (c :: rest) = some (text, left) := by
  cases text with
  | nil => cases valid
  | cons d more =>
    simp only [isPlain, Bool.and_eq_true] at valid
    obtain ⟨⟨starts, goes⟩, last⟩ := valid
    obtain ⟨rfl, rfl⟩ := List.cons.inj same
    refine ⟨?_, ?_⟩
    · cases more with
      | cons e more => exact starts
      | nil =>
        have dash : d ≠ '-' := ne_of_startsPlain starts rfl
        have question : d ≠ '?' := ne_of_startsPlain starts rfl
        have colon : d ≠ ':' := ne_of_startsPlain starts rfl
        simp only [startsPlain, dash, question, colon] at starts ⊢
        exact starts
    · rw [← same]
      exact plainSegment_append [] nofun goes last stops

/-- A scalar is read to its end, or an escape in it is refused, whatever the lines below are. -/
theorem dispatch_scalar {s : Scalar} (valid : s.isValid = true) (stops : s.Stops tail left) :
    ∃ (token? : Option Token) (shift : Nat), ∀ indents allowed tokens cursor c rest,
      cursor.rest = c :: rest → s.text ++ tail = c :: rest →
      (cursor.column = 0 → isMark (c :: rest) = false) →
      (Lexer.mk indents none [] allowed tokens cursor).dispatch c rest =
        token?.map fun token =>
          ⟨indents, offered indents allowed tokens cursor.column, [], false, token :: tokens,
            ⟨cursor.column + shift, left, cursor.ending, cursor.below⟩⟩ := by
  cases s with
  | plain text =>
    obtain ⟨stops, more⟩ := stops
    refine ⟨some (.scalar .plain text), (text ++ tail).length - left.length, ?_⟩
    intro indents allowed tokens cursor c rest here same unmarked
    obtain ⟨starts, segment⟩ := plain_append valid same stops
    have read : plain? false (Lexer.mk indents none [] allowed tokens cursor).innerIndent cursor =
        some ⟨text, false, cursor.leaving left⟩ := by
      rw [plain?, here, segment]
      cases left with
      | nil => exact absurd rfl more
      | cons d left => rfl
    rw [dispatch_of_startsPlain rfl starts unmarked, readPlain_of_plain read rfl, Cursor.leaving,
      here, ← same]
    rfl
  | single value =>
    obtain ⟨apart, rfl⟩ := stops
    have closed := singleSegment_exchange value [] apart
    rw [List.append_cons, List.nil_append] at closed
    refine ⟨some (.scalar .quoted value),
      1 + ((Text.exchange '\'' ['\'', '\''] value ++ ['\''] ++ left).length - left.length), ?_⟩
    intro indents allowed tokens cursor c rest here same unmarked
    obtain ⟨rfl, rfl⟩ := List.cons.inj same
    rw [dispatch_single, readQuoted_of_closed here (congrArg some closed)]
    rfl
  | double written =>
    obtain rfl := stops
    have closes : ClosesAt left (doubleSegment [] (written ++ '"' :: left)) :=
      doubleSegment_append written [] valid
    rw [List.append_cons] at closes
    cases read : doubleSegment [] (written ++ ['"'] ++ left) with
    | none =>
      refine ⟨none, 0, ?_⟩
      intro indents allowed tokens cursor c rest here same unmarked
      obtain ⟨rfl, rfl⟩ := List.cons.inj same
      rw [dispatch_double, readQuoted_of_refused here read]
      rfl
    | some segment =>
      obtain ⟨text, rfl⟩ := closes segment read
      refine ⟨some (.scalar .quoted text),
        1 + ((written ++ ['"'] ++ left).length - left.length), ?_⟩
      intro indents allowed tokens cursor c rest here same unmarked
      obtain ⟨rfl, rfl⟩ := List.cons.inj same
      rw [dispatch_double, readQuoted_of_closed here read]
      rfl

end Lexer

end UploadInbox.Yaml
