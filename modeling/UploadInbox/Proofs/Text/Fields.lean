import UploadInbox.Text.Basic

/-!
# Splitting and joining

Splitting at a separator is undone by joining, and joining parts without the separator is undone by
splitting. The first cut is where the first part ends.
-/
namespace UploadInbox.Text

theorem fields_ne_nil (sep : Char) (t : Text) : fields sep t ≠ [] := by
  cases t with
  | nil => simp [fields]
  | cons c rest =>
    simp only [fields]
    split
    · simp
    · split <;> simp

/-- Splitting goes on behind a separator as if nothing stood before it. -/
theorem fields_append_sep (sep : Char) (before after : Text) :
    fields sep (before ++ sep :: after) = fields sep before ++ fields sep after := by
  induction before with
  | nil => simp [fields]
  | cons c rest ih =>
    rw [List.cons_append, fields, fields, ih]
    by_cases same : c = sep
    · simp [same]
    · cases split : fields sep rest with
      | nil => exact absurd split (fields_ne_nil sep rest)
      | cons first others => simp [same]

theorem fields_of_not_mem (sep : Char) (t : Text) (absent : sep ∉ t) : fields sep t = [t] := by
  induction t with
  | nil => rfl
  | cons c rest ih =>
    have differs : c ≠ sep := fun same => absent (by simp [same])
    have inner := ih (fun member => absent (List.mem_cons_of_mem c member))
    rw [fields, if_neg differs, inner]

/-- A part ends at the first separator. -/
theorem fields_append_cons (sep : Char) (part rest : Text) (absent : sep ∉ part) :
    fields sep (part ++ sep :: rest) = part :: fields sep rest := by
  rw [fields_append_sep, fields_of_not_mem sep part absent]
  rfl

/-- There is one part more than there are separators. -/
theorem length_fields (sep : Char) (t : Text) : (fields sep t).length = t.count sep + 1 := by
  induction t with
  | nil => rfl
  | cons c rest ih =>
    by_cases same : c = sep
    · simp [fields, same, ih]
    · cases split : fields sep rest with
      | nil => exact absurd split (fields_ne_nil sep rest)
      | cons first others =>
        rw [split] at ih
        simpa [fields, same, split] using ih

theorem not_mem_of_mem_fields (sep : Char) (t part : Text) (member : part ∈ fields sep t) :
    sep ∉ part := by
  induction t generalizing part with
  | nil =>
    rw [fields, List.mem_singleton] at member
    simp [member]
  | cons c rest ih =>
    rw [fields] at member
    split at member
    next same =>
      rcases List.mem_cons.mp member with rfl | later
      · simp
      · exact ih part later
    next differs =>
      cases split : fields sep rest with
      | nil => exact absurd split (fields_ne_nil sep rest)
      | cons first others =>
        rw [split] at member ih
        rcases List.mem_cons.mp member with rfl | later
        · have inner := ih first (by simp)
          simp [inner, Ne.symm differs]
        · exact ih part (by simp [later])

theorem join_cons_of_ne_nil (sep part : Text) (parts : List Text) (more : parts ≠ []) :
    join sep (part :: parts) = part ++ sep ++ join sep parts := by
  cases parts with
  | nil => exact absurd rfl more
  | cons next others => rfl

theorem join_append_singleton (sep part : Text) (parts : List Text) (before : parts ≠ []) :
    join sep (parts ++ [part]) = join sep parts ++ sep ++ part := by
  induction parts with
  | nil => exact absurd rfl before
  | cons first others ih =>
    by_cases more : others = []
    · subst more
      rfl
    · rw [List.cons_append, join_cons_of_ne_nil sep first _ (by simp), ih more,
        join_cons_of_ne_nil sep first others more]
      simp only [List.append_assoc]

theorem mem_join {sep : Text} {parts : List Text} {c : Char} (member : c ∈ join sep parts) :
    c ∈ sep ∨ ∃ part ∈ parts, c ∈ part := by
  induction parts with
  | nil => cases member
  | cons part parts ih =>
    by_cases more : parts = []
    · subst more
      exact .inr ⟨part, List.mem_cons_self, member⟩
    · rw [join_cons_of_ne_nil sep part parts more, List.append_assoc] at member
      rcases List.mem_append.mp member with here | later
      · exact .inr ⟨part, List.mem_cons_self, here⟩
      rcases List.mem_append.mp later with between | later
      · exact .inl between
      · refine (ih later).imp_right ?_
        rintro ⟨other, inside, member⟩
        exact ⟨other, List.mem_cons_of_mem part inside, member⟩

/-- What holds of the characters of the separator and of the parts holds of those of the join. -/
theorem forall_mem_join {P : Char → Prop} {sep : Text} {parts : List Text}
    (between : ∀ c ∈ sep, P c) (inside : ∀ part ∈ parts, ∀ c ∈ part, P c) :
    ∀ c ∈ join sep parts, P c := by
  intro c member
  rcases mem_join member with mark | ⟨part, present, member⟩
  · exact between c mark
  · exact inside part present c member

theorem not_mem_join {sep : Text} {parts : List Text} {c : Char} (between : c ∉ sep)
    (absent : ∀ part ∈ parts, c ∉ part) : c ∉ join sep parts := by
  intro member
  apply forall_mem_join (P := (· ≠ c)) _ _ c member rfl
  · rintro d mark rfl
    exact between mark
  · rintro part present d inside rfl
    exact absent part present inside

/-- Parts that do not contain the separator come back from their join. -/
theorem fields_join (sep : Char) (parts : List Text) (some_part : parts ≠ [])
    (absent : ∀ part ∈ parts, sep ∉ part) : fields sep (join [sep] parts) = parts := by
  induction parts with
  | nil => exact absurd rfl some_part
  | cons part parts ih =>
    have here := absent part (by simp)
    by_cases more : parts = []
    · subst more
      exact fields_of_not_mem sep part here
    · rw [join_cons_of_ne_nil [sep] part parts more, List.append_assoc, List.singleton_append,
        fields_append_cons sep part _ here,
        ih more fun other member => absent other (by simp [member])]

theorem join_fields (sep : Char) (t : Text) : join [sep] (fields sep t) = t := by
  induction t with
  | nil => rfl
  | cons c rest ih =>
    cases split : fields sep rest with
    | nil => exact absurd split (fields_ne_nil sep rest)
    | cons first others =>
      rw [split] at ih
      by_cases same : c = sep
      · rw [fields, if_pos same, split, join_cons_of_ne_nil _ _ _ (by simp), ih, same]
        rfl
      · rw [fields, if_neg same, split]
        cases others with
        | nil => simpa [join] using ih
        | cons next others => simpa [join] using ih

/-- Parts without the separator are known by their join. -/
theorem join_inj {sep : Char} {parts others : List Text} (filled : parts ≠ [])
    (filled_others : others ≠ []) (absent : ∀ part ∈ parts, sep ∉ part)
    (absent_others : ∀ part ∈ others, sep ∉ part) :
    join [sep] parts = join [sep] others ↔ parts = others := by
  constructor
  · intro same
    rw [← fields_join sep parts filled absent, same,
      fields_join sep others filled_others absent_others]
  · rintro rfl
    rfl

/-- A text is known by its parts. -/
theorem fields_injective {sep : Char} {s t : Text} (same : fields sep s = fields sep t) : s = t := by
  rw [← join_fields sep s, same, join_fields]

theorem join_eq_intercalate (sep : Text) (parts : List Text) :
    join sep parts = sep.intercalate parts := by
  induction parts with
  | nil => rfl
  | cons part parts ih =>
    cases parts with
    | nil => rw [List.intercalate_singleton]; rfl
    | cons next others => rw [List.intercalate_cons_cons, ← ih]; rfl

theorem mem_intercalate_of_mem {α : Type} {sep part : List α} {parts : List (List α)}
    (member : part ∈ parts) {x : α} (inside : x ∈ part) : x ∈ sep.intercalate parts := by
  induction parts with
  | nil => cases member
  | cons first others ih =>
    by_cases more : others = []
    · subst more
      rw [List.intercalate_singleton, ← List.mem_singleton.mp member]
      exact inside
    · rw [List.intercalate_cons_of_ne_nil more]
      rcases List.mem_cons.mp member with rfl | later
      · simp [inside]
      · exact List.mem_append_right _ (ih later)

theorem mem_of_mem_fields {sep : Char} {t part : Text} (member : part ∈ fields sep t) {c : Char}
    (inside : c ∈ part) : c ∈ t := by
  rw [← join_fields sep t, join_eq_intercalate]
  exact mem_intercalate_of_mem member inside

theorem cut?_append_cons (sep : Char) (before after : Text) (absent : sep ∉ before) :
    cut? sep (before ++ sep :: after) = some (before, after) := by
  induction before with
  | nil => simp [cut?]
  | cons c rest ih =>
    have differs : c ≠ sep := fun same => absent (by simp [same])
    have inner := ih (fun member => absent (List.mem_cons_of_mem c member))
    simp [cut?, differs, inner]

theorem cut?_of_not_mem (sep : Char) (t : Text) (absent : sep ∉ t) : cut? sep t = none := by
  induction t with
  | nil => rfl
  | cons c rest ih =>
    have differs : c ≠ sep := fun same => absent (by simp [same])
    simp [cut?, differs, ih (fun member => absent (List.mem_cons_of_mem c member))]

theorem cut?_eq_some (sep : Char) (t before after : Text)
    (cut : cut? sep t = some (before, after)) : t = before ++ sep :: after ∧ sep ∉ before := by
  by_cases present : sep ∈ t
  · obtain ⟨first, rest, rfl, absent⟩ := List.eq_append_cons_of_mem present
    rw [cut?_append_cons sep first rest absent] at cut
    cases cut
    exact ⟨rfl, absent⟩
  · rw [cut?_of_not_mem sep t present] at cut
    cases cut

/-- What stands on both sides of the first separator is known by the whole. -/
theorem eq_of_append_cons {sep : Char} {before other after rest : Text} (absent : sep ∉ before)
    (absent_other : sep ∉ other) (same : before ++ sep :: after = other ++ sep :: rest) :
    before = other ∧ after = rest := by
  have cut := congrArg (cut? sep) same
  rw [cut?_append_cons sep before after absent, cut?_append_cons sep other rest absent_other] at cut
  exact Prod.mk.inj (Option.some.inj cut)

theorem cutLast?_of_not_mem (sep : Char) (t : Text) (absent : sep ∉ t) :
    cutLast? sep t = none := by
  induction t with
  | nil => rfl
  | cons c rest ih =>
    have differs : c ≠ sep := fun same => absent (by simp [same])
    have inner := ih fun member => absent (List.mem_cons_of_mem c member)
    simp [cutLast?, inner, differs]

theorem cutLast?_append_cons (sep : Char) (before after : Text) (absent : sep ∉ after) :
    cutLast? sep (before ++ sep :: after) = some (before, after) := by
  induction before with
  | nil => simp [cutLast?, cutLast?_of_not_mem sep after absent]
  | cons c rest ih => simp [cutLast?, ih]

/-- The same for the last separator. -/
theorem eq_of_append_cons_last {sep : Char} {before other after rest : Text} (absent : sep ∉ after)
    (absent_rest : sep ∉ rest) (same : before ++ sep :: after = other ++ sep :: rest) :
    before = other ∧ after = rest := by
  have cut := congrArg (cutLast? sep) same
  rw [cutLast?_append_cons sep before after absent,
    cutLast?_append_cons sep other rest absent_rest] at cut
  exact Prod.mk.inj (Option.some.inj cut)

theorem cutLast?_eq_none_iff {sep : Char} {t : Text} : cutLast? sep t = none ↔ sep ∉ t := by
  refine ⟨fun uncut member => ?_, cutLast?_of_not_mem sep t⟩
  induction t with
  | nil => cases member
  | cons c rest ih =>
    rw [cutLast?] at uncut
    split at uncut
    next => cases uncut
    next none_later =>
      split at uncut
      next => cases uncut
      next differs =>
        rcases List.mem_cons.mp member with same | later
        · exact differs same.symm
        · exact ih none_later later

theorem cutLast?_eq_some_iff {sep : Char} {t before after : Text} :
    cutLast? sep t = some (before, after) ↔ t = before ++ sep :: after ∧ sep ∉ after := by
  constructor
  · intro cut
    induction t generalizing before with
    | nil => cases cut
    | cons c rest ih =>
      rw [cutLast?] at cut
      split at cut
      next front back later =>
        cases cut
        obtain ⟨rfl, absent⟩ := ih later
        exact ⟨rfl, absent⟩
      next none_later =>
        split at cut
        next same =>
          cases cut
          exact ⟨by rw [same]; rfl, cutLast?_eq_none_iff.mp none_later⟩
        next => cases cut
  · rintro ⟨rfl, absent⟩
    exact cutLast?_append_cons sep before after absent

@[simp] theorem dropPrefix?_append (start t : Text) : dropPrefix? start (start ++ t) = some t := by
  induction start with
  | nil => rfl
  | cons c start ih => simp [dropPrefix?, ih]

theorem dropPrefix?_eq_some {start t rest : Text}
    (dropped : dropPrefix? start t = some rest) : t = start ++ rest := by
  induction start generalizing t with
  | nil => exact Option.some.inj dropped
  | cons c start ih =>
    cases t with
    | nil => cases dropped
    | cons d t =>
      rw [dropPrefix?] at dropped
      split at dropped
      next same => rw [same, ih dropped, List.cons_append]
      next => cases dropped

theorem cutAt?_eq_some {mark t before after : Text} (cut : cutAt? mark t = some (before, after)) :
    t = before ++ (mark ++ after) := by
  induction t generalizing before with
  | nil =>
    rw [cutAt?] at cut
    split at cut
    next empty =>
      cases cut
      rw [List.isEmpty_iff.mp empty]
      rfl
    next => cases cut
  | cons c rest ih =>
    rw [cutAt?] at cut
    split at cut
    next dropped =>
      cases cut
      rw [List.nil_append, dropPrefix?_eq_some dropped]
    next =>
      obtain ⟨⟨front, behind⟩, inner, same⟩ := Option.map_eq_some_iff.mp cut
      cases same
      rw [List.cons_append, ih inner]

/-- A mark is found where it stands first: it ends in nothing that it does not begin in. -/
theorem cutAt?_append {mark before : Text} (first : ¬ mark <:+: before ++ mark.dropLast)
    (after : Text) : cutAt? mark (before ++ (mark ++ after)) = some (before, after) := by
  have filled : mark ≠ [] := by
    rintro rfl
    exact first ⟨[], before, by simp⟩
  induction before with
  | nil =>
    have begins := dropPrefix?_append mark after
    cases mark with
    | nil => exact absurd rfl filled
    | cons c more =>
      rw [List.nil_append, List.cons_append, cutAt?]
      rw [List.cons_append] at begins
      rw [begins]
  | cons c rest ih =>
    have later : ¬ mark <:+: rest ++ mark.dropLast := by
      rintro ⟨front, back, same⟩
      exact first ⟨c :: front, back, by simp [← same]⟩
    have inner := ih later
    rw [List.cons_append, cutAt?]
    cases dropped : dropPrefix? mark (c :: (rest ++ (mark ++ after))) with
    | none =>
      simp only
      rw [inner]
      rfl
    | some others =>
      -- The mark would begin before its place and end before its end.
      have here : mark <+: c :: (rest ++ (mark ++ after)) :=
        ⟨others, (dropPrefix?_eq_some dropped).symm⟩
      have whole : mark.dropLast ++ [mark.getLast filled] = mark :=
        List.dropLast_concat_getLast filled
      have front : c :: rest ++ mark.dropLast <+: c :: (rest ++ (mark ++ after)) := by
        refine ⟨[mark.getLast filled] ++ after, ?_⟩
        calc
          c :: rest ++ mark.dropLast ++ ([mark.getLast filled] ++ after)
              = c :: rest ++ ((mark.dropLast ++ [mark.getLast filled]) ++ after) := by simp
          _ = c :: (rest ++ (mark ++ after)) := by rw [whole]; rfl
      have short : mark.length ≤ (c :: rest ++ mark.dropLast).length := by simp; omega
      exact absurd (List.prefix_of_prefix_length_le here front short).isInfix first

/-- What stands before and after the only separator. -/
def cutOnly? (sep : Char) (t : Text) : Option (Text × Text) :=
  match fields sep t with
  | [before, after] => some (before, after)
  | _ => none

theorem cutOnly?_append_cons {sep : Char} {before after : Text} (front : sep ∉ before)
    (back : sep ∉ after) : cutOnly? sep (before ++ sep :: after) = some (before, after) := by
  rw [cutOnly?, fields_append_cons sep before after front, fields_of_not_mem sep after back]

end UploadInbox.Text
