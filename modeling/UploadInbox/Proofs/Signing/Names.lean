import UploadInbox.Proofs.Http.Headers
import UploadInbox.Proofs.Text.Fields
import UploadInbox.Proofs.Text.Characters
import UploadInbox.Signing.Canonical

/-!
# Names of header fields in a canonical request

The names of header fields are lowercase tokens, which neither lowering nor joining can blur: the
list of signed names and the block of header lines both give back exactly the names they are of.
-/
namespace UploadInbox

theorem bounds_of_isTokenChar {c : Char} (token : isTokenChar c = true) :
    0x20 < c.toNat ∧ c.toNat < 0x7F := by
  by_cases letter : c.isAlphanum = true
  · exact bounds_of_isAlphanum letter
  · have marks : ("!#$%&'*+-.^_|~" : Text).all
        (fun d => 0x20 < d.toNat && d.toNat < 0x7F) = true := by
      decide
    simp only [List.all_eq_true, Bool.and_eq_true, decide_eq_true_eq] at marks
    simp only [isTokenChar, letter, Bool.false_or, Bool.or_eq_true, decide_eq_true_eq] at token
    by_cases accent : c.toNat = 0x60
    · omega
    · refine marks c ?_
      simp only [accent, or_false] at token
      simpa [or_assoc] using token

/-! ## Lowercase tokens -/

/-- Whether a character is its own lowercase form for being neither a capital nor beyond ASCII. -/
def isLowerAscii (c : Char) : Bool := c.toNat < 128 && !(65 ≤ c.toNat && c.toNat ≤ 90)

theorem Lowercase.ofChar_of_isLowerAscii {c : Char} (lower : isLowerAscii c = true) :
    ofChar c = [c] := by
  simp only [isLowerAscii, Bool.and_eq_true, Bool.not_eq_true', Bool.and_eq_false_iff,
    decide_eq_true_eq, decide_eq_false_iff_not] at lower
  -- The first run is that of the capitals, every other one begins beyond ASCII.
  have apart : ∀ run ∈ runs, (run.1 = 65 ∧ run.2.1 = 90) ∨ 128 ≤ run.1 := by decide +kernel
  have dotless : c.toNat ≠ 0x130 := by omega
  rw [ofChar, if_neg dotless]
  split
  next first last distance way found =>
    have range := apart _ (List.mem_of_find?_eq_some found)
    have fits := List.find?_some found
    simp only [Bool.and_eq_true, decide_eq_true_eq] at fits range
    omega
  next => rfl

theorem Lowercase.ofText_of_isLowerAscii {t : Text} (lower : ∀ c ∈ t, isLowerAscii c = true) :
    ofText t = t := by
  have kept (before : Text) : after before t = t := by
    induction t generalizing before with
    | nil => rfl
    | cons c rest ih =>
      have here := lower c List.mem_cons_self
      have sigma : c ≠ 'Σ' := by
        rintro rfl
        exact absurd here (by decide)
      rw [after, if_neg sigma, ofChar_of_isLowerAscii here,
        ih fun d member => lower d (List.mem_cons_of_mem c member)]
      rfl
  exact kept []

namespace Headers

variable {name : Text} {c : Char}

theorem isTokenChar_of_mem_name (named : isName name = true) (member : c ∈ name) :
    isTokenChar c = true := by
  simp only [isName, isToken, Bool.and_eq_true, List.all_eq_true] at named
  exact named.1.2 c member

theorem isLowerAscii_of_mem_name (named : isName name = true) (member : c ∈ name) :
    isLowerAscii c = true := by
  have bounds := bounds_of_isTokenChar (isTokenChar_of_mem_name named member)
  have lowered : name.map Char.toLower = name.map id :=
    (lowerAscii_name named).trans (List.map_id name).symm
  have same : c.toLower = c := List.map_inj_left.mp lowered c member
  have number := Text.toNat_toLower c
  rw [same] at number
  simp only [isLowerAscii, Bool.and_eq_true, Bool.not_eq_true', Bool.and_eq_false_iff,
    decide_eq_true_eq, decide_eq_false_iff_not]
  split at number
  · omega
  · omega

theorem isSendable_of_mem_name (named : isName name = true) (member : c ∈ name) :
    isSendable c = true := by
  have bounds := bounds_of_isTokenChar (isTokenChar_of_mem_name named member)
  simp only [isSendable, Bool.or_eq_true, Bool.and_eq_true, decide_eq_true_eq, bne_iff_ne]
  omega

theorem ofText_name (named : isName name = true) : Lowercase.ofText name = name :=
  Lowercase.ofText_of_isLowerAscii fun _ member => isLowerAscii_of_mem_name named member

/-- A mark that stands in no token stands in no name. -/
theorem not_mem_name {mark : Char} (other : isTokenChar mark = false) (named : isName name = true) :
    mark ∉ name :=
  not_mem_of_class (fun _ => isTokenChar_of_mem_name named) other

end Headers

namespace Blank

theorem not_isBlank_of_mem_words {t word : Text} (member : word ∈ words t) :
    ∀ c ∈ word, isBlank c = false := by
  have kept (current : Text) (plain : ∀ c ∈ current, isBlank c = false)
      (inside : word ∈ wordsFrom current t) : ∀ c ∈ word, isBlank c = false := by
    clear member
    induction t generalizing current with
    | nil =>
      rw [wordsFrom] at inside
      split at inside
      · cases inside
      · rw [List.mem_singleton.mp inside]
        simpa using plain
    | cons d rest ih =>
      rw [wordsFrom] at inside
      split at inside
      next =>
        split at inside
        · exact ih [] (by simp) inside
        · rcases List.mem_cons.mp inside with rfl | later
          · simpa using plain
          · exact ih [] (by simp) later
      next visible =>
        refine ih (d :: current) ?_ inside
        intro c member
        rcases List.mem_cons.mp member with rfl | before
        · exact Bool.eq_false_iff.mpr visible
        · exact plain c before
  exact kept [] (by simp) member

/-- Of all blanks a collapsed text has spaces alone. -/
theorem eq_space_of_mem_collapse {t : Text} {c : Char} (member : c ∈ collapse t)
    (blank : isBlank c = true) : c = ' ' := by
  rcases Text.mem_join member with space | ⟨word, inside, member⟩
  · exact List.mem_singleton.mp space
  · rw [not_isBlank_of_mem_words inside c member] at blank
    cases blank

end Blank

namespace Signing

variable {fields : SortedFields}

theorem headerLine_eq {field : Text × Text} (named : Headers.isName field.1 = true) :
    headerLine field = field.1 ++ ':' :: Blank.collapse field.2 := by
  rw [headerLine, Headers.ofText_name named]

theorem signedNames_eq (named : ∀ field ∈ fields, Headers.isName field.1 = true) :
    signedNames fields = Text.join [';'] (fields.map (·.1)) := by
  have lowered : (fields.map fun field => Lowercase.ofText field.1) = fields.map (·.1) :=
    List.map_congr_left fun field member => Headers.ofText_name (named field member)
  rw [signedNames, lowered]

/-- Of the marks that stand in no token, only the one between names stands in their list. -/
theorem not_mem_signedNames (named : ∀ field ∈ fields, Headers.isName field.1 = true)
    {mark : Char} (other : isTokenChar mark = false) (differs : mark ≠ ';') :
    mark ∉ signedNames fields := by
  rw [signedNames_eq named]
  apply Text.not_mem_join
  · simpa using differs
  · intro name member
    obtain ⟨field, present, rfl⟩ := List.mem_map.mp member
    exact Headers.not_mem_name other (named field present)

/-- The list of signed names gives back the names. -/
theorem fields_signedNames (named : ∀ field ∈ fields, Headers.isName field.1 = true)
    (filled : fields ≠ []) : Text.fields ';' (signedNames fields) = fields.map (·.1) := by
  rw [signedNames_eq named]
  refine Text.fields_join ';' _ (by simpa using filled) ?_
  intro name member
  obtain ⟨field, inside, rfl⟩ := List.mem_map.mp member
  exact Headers.not_mem_name (by decide) (named field inside)

theorem newline_not_mem_headerLine {field : Text × Text}
    (named : Headers.isName field.1 = true) : '\n' ∉ headerLine field := by
  have name : '\n' ∉ field.1 := Headers.not_mem_name (by decide) named
  have value : '\n' ∉ Blank.collapse field.2 := by
    intro member
    exact absurd (Blank.eq_space_of_mem_collapse member (by decide)) (by decide)
  rw [headerLine_eq named]
  simp [name, value]

/-- The block of header lines gives back the lines. -/
theorem fields_headerBlock (named : ∀ field ∈ fields, Headers.isName field.1 = true)
    (filled : fields ≠ []) : Text.fields '\n' (headerBlock fields) = fields.map headerLine := by
  refine Text.fields_join '\n' _ (by simpa using filled) ?_
  intro line member
  obtain ⟨field, inside, rfl⟩ := List.mem_map.mp member
  exact newline_not_mem_headerLine (named field inside)

/-- A line of the block gives back the name. -/
theorem takeWhile_headerLine {field : Text × Text} (named : Headers.isName field.1 = true) :
    (headerLine field).takeWhile (· ≠ ':') = field.1 := by
  have others : ∀ c ∈ field.1, decide (c ≠ ':') = true := by
    rintro c member
    refine decide_eq_true ?_
    rintro rfl
    exact Headers.not_mem_name (by decide) named member
  rw [headerLine_eq named, List.takeWhile_append_of_pos others]
  simp

/-- The names of the header lines, in their order. -/
theorem names_headerBlock (named : ∀ field ∈ fields, Headers.isName field.1 = true)
    (filled : fields ≠ []) :
    (Text.fields '\n' (headerBlock fields)).map (·.takeWhile (· ≠ ':')) = fields.map (·.1) := by
  rw [fields_headerBlock named filled, List.map_map]
  exact List.map_congr_left fun field member => takeWhile_headerLine (named field member)

end Signing
end UploadInbox
