import UploadInbox.Proofs.Text.Characters
import UploadInbox.Proofs.Text.Fields
import UploadInbox.Proofs.Text.Trim
import UploadInbox.Proofs.Xml.Grammar

/-!
# Markup that is written

What is read of a tag, a comment or an instruction that is written, whatever follows it. A quote in
a tag hides what would end the tag, so a part of a tag is one in which every quote is closed.
-/
namespace UploadInbox.Xml

/-! ## What a markup leaves -/

theorem length_tag? {quote : Option Char} {t inside rest : Text}
    (read : tag? quote t = some (inside, rest)) : rest.length < t.length := by
  induction t generalizing quote inside with
  | nil => cases read
  | cons c more ih =>
    rw [tag?.eq_def] at read
    dsimp only at read
    split at read
    next =>
      cases read
      exact Nat.lt_succ_self _
    next =>
      obtain ⟨⟨later, after⟩, inner, same⟩ := Option.map_eq_some_iff.mp read
      cases same
      exact Nat.lt_succ_of_lt (ih inner)

theorem length_afterDeclaration? {depth : Nat} {t rest : Text}
    (read : afterDeclaration? depth t = some rest) : rest.length < t.length := by
  induction t generalizing depth with
  | nil => cases read
  | cons c more ih =>
    rw [afterDeclaration?.eq_def] at read
    dsimp only at read
    split at read
    next => exact Nat.lt_succ_of_lt (ih read)
    next =>
      split at read
      next =>
        split at read
        next =>
          cases read
          exact Nat.lt_succ_self _
        next => exact Nat.lt_succ_of_lt (ih read)
      next => exact Nat.lt_succ_of_lt (ih read)

theorem length_cutAt? {mark t before after : Text}
    (cut : Text.cutAt? mark t = some (before, after)) : after.length ≤ t.length := by
  rw [Text.cutAt?_eq_some cut]
  simp only [List.length_append]
  omega

theorem length_exclamation? {t rest : Text} {markup : Markup}
    (read : exclamation? t = some (markup, rest)) : rest.length ≤ t.length := by
  rw [exclamation?] at read
  split at read
  next behind dropped =>
    obtain ⟨⟨inside, after⟩, cut, same⟩ := Option.map_eq_some_iff.mp read
    cases same
    rw [Text.dropPrefix?_eq_some dropped, List.length_append]
    exact Nat.le_add_left_of_le (length_cutAt? cut)
  next =>
    split at read
    next behind dropped =>
      obtain ⟨⟨inside, after⟩, cut, same⟩ := Option.map_eq_some_iff.mp read
      cases same
      rw [Text.dropPrefix?_eq_some dropped, List.length_append]
      exact Nat.le_add_left_of_le (length_cutAt? cut)
    next =>
      split at read
      next =>
        have short : ((t.drop 7).dropWhile isSpace).length ≤ t.length :=
          ((List.dropWhile_sublist _).trans (List.drop_sublist 7 t)).length_le
        split at read
        next => cases read
        next =>
          obtain ⟨after, inner, same⟩ := Option.map_eq_some_iff.mp read
          cases same
          exact Nat.le_trans (Nat.le_of_lt (length_afterDeclaration? inner)) short
      next => cases read

/-- No markup gives back more than stands behind its first sign. -/
theorem length_markup? {t rest : Text} {markup : Markup}
    (read : markup? t = some (markup, rest)) : rest.length ≤ t.length := by
  unfold markup? at read
  split at read
  next => exact Nat.le_succ_of_le (length_exclamation? read)
  next =>
    obtain ⟨⟨name, after⟩, cut, same⟩ := Option.map_eq_some_iff.mp read
    cases same
    obtain ⟨rfl, -⟩ := Text.cut?_eq_some _ _ _ _ cut
    simp only [List.length_cons, List.length_append]
    omega
  next => cases read
  next =>
    obtain ⟨⟨inside, after⟩, cut, same⟩ := Option.map_eq_some_iff.mp read
    cases same
    exact Nat.le_succ_of_le (length_cutAt? cut)
  next =>
    obtain ⟨⟨inside, after⟩, cut, same⟩ := Option.map_eq_some_iff.mp read
    cases same
    exact Nat.le_of_lt (length_tag? cut)

/-! ## Parts of tags -/

/-- A part of a tag with nothing in it that would end the tag, and no open quote. -/
def Closed (t : Text) : Prop :=
  ∀ rest, tag? none (t ++ rest) = (tag? none rest).map fun (inside, after) => (t ++ inside, after)

theorem Closed.append {s t : Text} (front : Closed s) (back : Closed t) : Closed (s ++ t) := by
  intro rest
  rw [List.append_assoc, front, back, Option.map_map]
  simp only [Function.comp_def, List.append_assoc]

theorem closed_of_forall {t : Text} (clear : ∀ c ∈ t, c ≠ '>' ∧ c ≠ '"' ∧ c ≠ '\'') :
    Closed t := by
  intro rest
  induction t with
  | nil => simp
  | cons c more ih =>
    obtain ⟨notEnd, notDouble, notSingle⟩ := clear c List.mem_cons_self
    rw [List.cons_append, tag?]
    simp only [notEnd, notDouble, notSingle, decide_false, Bool.or_self, Bool.false_and,
      Bool.false_eq_true, if_false]
    rw [ih fun d member => clear d (List.mem_cons_of_mem c member), Option.map_map]
    rfl

theorem closed_of_class {p : Char → Bool} {t : Text} (inside : ∀ c ∈ t, p c = true)
    (notEnd : p '>' = false) (notDouble : p '"' = false) (notSingle : p '\'' = false) :
    Closed t :=
  closed_of_forall fun c member => ⟨ne_of_class (inside c member) notEnd,
    ne_of_class (inside c member) notDouble, ne_of_class (inside c member) notSingle⟩

theorem Blanks.closed (blanks : Blanks) : Closed blanks.val :=
  closed_of_class blanks.isSpace_of_mem (by decide) (by decide) (by decide)

theorem Name.closed (name : Name) : Closed name.val :=
  closed_of_class name.isNameChar_of_mem (by decide) (by decide) (by decide)

/-- Up to its second occurrence a quote hides everything. -/
theorem tag?_quoted {quote : Char} {value : Text} (clear : quote ∉ value) (rest : Text) :
    tag? (some quote) (value ++ quote :: rest)
      = (tag? none rest).map fun (inside, after) => (value ++ quote :: inside, after) := by
  induction value with
  | nil => simp [tag?]
  | cons c more ih =>
    have other : c ≠ quote := fun same => clear (by simp [same])
    have later := ih fun member => clear (List.mem_cons_of_mem c member)
    rw [List.cons_append, tag?]
    simp only [other, if_false, Option.isNone_some, Bool.and_false, Bool.false_eq_true]
    rw [later, Option.map_map]
    rfl

theorem closed_quoted {quote : Char} (quoted : quote = '"' ∨ quote = '\'') {value : Text}
    (clear : quote ∉ value) : Closed (quote :: (value ++ [quote])) := by
  intro rest
  have begins : tag? none (quote :: (value ++ quote :: rest))
      = (tag? (some quote) (value ++ quote :: rest)).map
          fun (inside, after) => (quote :: inside, after) := by
    rcases quoted with rfl | rfl
    · rw [tag?]
      rfl
    · rw [tag?]
      rfl
  have whole : quote :: (value ++ [quote]) ++ rest = quote :: (value ++ quote :: rest) := by simp
  rw [whole, begins, tag?_quoted clear, Option.map_map]
  simp [Function.comp_def]

theorem Attribute.closed (a : Attribute) : Closed a.text := by
  have sign : Closed ['='] := closed_of_forall (by simp)
  have value := closed_quoted a.quoted a.clear
  have whole := a.gap.closed.append (a.name.closed.append
    (a.left.closed.append (sign.append (a.right.closed.append value))))
  exact whole

theorem Tag.closed (tag : Tag) : Closed (tag.name.val ++ tag.attributesText) := by
  have attributes : Closed (tag.attributes.flatMap Attribute.text) := by
    induction tag.attributes with
    | nil => exact closed_of_forall nofun
    | cons a others ih =>
      rw [List.flatMap_cons]
      exact a.closed.append ih
  exact tag.name.closed.append (attributes.append tag.gap.closed)

theorem Closed.tag?_end {t : Text} (closed : Closed t) (rest : Text) :
    tag? none (t ++ '>' :: rest) = some (t, rest) := by
  rw [closed]
  simp [tag?]

/-! ## Whole tags -/

theorem isSpace_of_isNameChar {c : Char} (part : isNameChar c = true) : isSpace c = false := by
  rw [isNameChar, Bool.and_eq_true, Bool.not_eq_true'] at part
  exact part.1

/-- What follows the name in a tag begins with a blank. -/
theorem Tag.isSpace_of_head? (tag : Tag) {c : Char} (head : tag.attributesText.head? = some c) :
    isSpace c = true := by
  have begins (blanks : Blanks) (rest : Text) (filled : blanks.val ≠ [])
      (head : (blanks.val ++ rest).head? = some c) : isSpace c = true := by
    obtain ⟨d, more, same⟩ := List.exists_cons_of_ne_nil filled
    rw [same] at head
    cases head
    exact blanks.isSpace_of_mem c (by simp [same])
  rw [Tag.attributesText] at head
  cases listed : tag.attributes with
  | nil =>
    rw [listed] at head
    exact tag.gap.isSpace_of_mem c (List.mem_of_head? head)
  | cons a others =>
    rw [listed, List.flatMap_cons, Attribute.text, List.append_assoc, List.append_assoc] at head
    exact begins a.gap _ a.separate head

/-- No tag ends like one of an element that holds nothing. -/
theorem Tag.getLast?_ne (tag : Tag) : (tag.name.val ++ tag.attributesText).getLast? ≠ some '/' := by
  have other {p : Char → Bool} {t : Text} (inside : ∀ c ∈ t, p c = true)
      (outside : p '/' = false) : t.getLast? ≠ some '/' :=
    fun last => not_mem_of_class inside outside (List.mem_of_getLast? last)
  have quoted (a : Attribute) : a.text.getLast? ≠ some '/' := by
    have whole : a.text = a.gap.val ++ (a.name.val ++ (a.left.val ++ '=' :: (a.right.val
        ++ a.quote :: a.value))) ++ [a.quote] := by simp [Attribute.text]
    rw [whole, List.getLast?_concat]
    rcases a.quoted with same | same <;> simp [same]
  have attributes : (tag.attributes.flatMap Attribute.text).getLast? ≠ some '/' := by
    induction tag.attributes with
    | nil => simp
    | cons a others ih =>
      rw [List.flatMap_cons, List.getLast?_append]
      cases last : (others.flatMap Attribute.text).getLast? with
      | none => simpa using quoted a
      | some c => simpa [last] using ih
  have name := other tag.name.isNameChar_of_mem (by decide)
  have gap := other tag.gap.isSpace_of_mem (by decide)
  rw [Tag.attributesText, List.getLast?_append, List.getLast?_append]
  cases last : tag.gap.val.getLast? with
  | some c => simpa [last] using gap
  | none =>
    cases inner : (tag.attributes.flatMap Attribute.text).getLast? with
    | some c => simpa [inner] using attributes
    | none => simpa using name

theorem Tag.takeWhile_name (tag : Tag) :
    (tag.name.val ++ tag.attributesText).takeWhile (!isSpace ·) = tag.name.val := by
  have inside : ∀ c ∈ tag.name.val, (!isSpace c) = true := by
    intro c member
    rw [isSpace_of_isNameChar (tag.name.isNameChar_of_mem c member)]
    rfl
  rw [List.takeWhile_append_of_pos inside]
  cases more : tag.attributesText with
  | nil => simp
  | cons c rest =>
    have blank := tag.isSpace_of_head? (c := c) (by simp [more])
    simp [List.takeWhile, blank]

theorem Tag.elementMarkup_opening (tag : Tag) :
    elementMarkup (tag.name.val ++ tag.attributesText)
      = .opening tag.name.val tag.attributesText := by
  rw [elementMarkup, if_neg tag.getLast?_ne]
  simp only [tag.takeWhile_name, Bool.false_eq_true, if_false, List.drop_left]

theorem Tag.elementMarkup_empty (tag : Tag) :
    elementMarkup (tag.name.val ++ tag.attributesText ++ ['/'])
      = .empty tag.name.val tag.attributesText := by
  rw [elementMarkup, if_pos (List.getLast?_concat)]
  simp only [List.dropLast_concat, tag.takeWhile_name, if_true, List.drop_left]

/-- A markup that begins with a name is a tag. -/
theorem markup?_of_name (name : Name) (rest : Text) :
    markup? (name.val ++ rest)
      = (tag? none (name.val ++ rest)).map fun (inside, rest) => (elementMarkup inside, rest) := by
  cases named : name.val with
  | nil => exact absurd named name.property.1
  | cons c more =>
    have part := name.isNameChar_of_mem c (by simp [named])
    have noMark : c ≠ '!' := ne_of_class part (by decide)
    have noSlash : c ≠ '/' := ne_of_class part (by decide)
    have noQuestion : c ≠ '?' := ne_of_class part (by decide)
    unfold markup?
    split
    next same => exact absurd (List.cons.inj same).1 noMark
    next same => exact absurd (List.cons.inj same).1 noSlash
    next same => exact absurd (List.cons.inj same).1 noQuestion
    next same => exact absurd (List.cons.inj same).1 noQuestion
    next => rfl

theorem Tag.markup?_opening (tag : Tag) (rest : Text) :
    markup? (tag.name.val ++ tag.attributesText ++ '>' :: rest)
      = some (.opening tag.name.val tag.attributesText, rest) := by
  have read := tag.closed.tag?_end rest
  rw [List.append_assoc] at read ⊢
  simp only [markup?_of_name, read, Option.map_some, tag.elementMarkup_opening]

theorem Tag.markup?_empty (tag : Tag) (rest : Text) :
    markup? (tag.name.val ++ tag.attributesText ++ '/' :: '>' :: rest)
      = some (.empty tag.name.val tag.attributesText, rest) := by
  have slash : Closed ['/'] := closed_of_forall (by simp)
  have read := (tag.closed.append slash).tag?_end rest
  have whole : tag.name.val ++ tag.attributesText ++ ['/'] ++ '>' :: rest
      = tag.name.val ++ (tag.attributesText ++ '/' :: '>' :: rest) := by simp
  rw [whole] at read
  rw [List.append_assoc, markup?_of_name, read]
  simp only [Option.map_some, tag.elementMarkup_empty]

theorem Tag.markup?_closing (tag : Tag) (rest : Text) :
    markup? ('/' :: (tag.name.val ++ tag.closingGap.val ++ '>' :: rest))
      = some (.closing tag.name.val, rest) := by
  have name : '>' ∉ tag.name.val := not_mem_of_class tag.name.isNameChar_of_mem (by decide)
  have gap : '>' ∉ tag.closingGap.val :=
    not_mem_of_class tag.closingGap.isSpace_of_mem (by decide)
  have clear : '>' ∉ tag.name.val ++ tag.closingGap.val := by simp [name, gap]
  have trimmed : Text.trimEnd isSpace (tag.name.val ++ tag.closingGap.val) = tag.name.val := by
    rw [Text.trimEnd_append tag.closingGap.isSpace_of_mem, Text.trimEnd_eq_self_iff]
    exact fun c last => isSpace_of_isNameChar (tag.name.isNameChar_of_mem c (List.mem_of_getLast? last))
  simp only [markup?, Text.cut?_append_cons _ _ _ clear, Option.map_some, trimmed]

/-! ## Comments, instructions and characters taken as they are -/

/-- A mark is found behind what does not contain it, if its last sign stands in it once. -/
theorem cutAt?_behind {mark before : Text} (last : Char) (ends : mark.getLast? = some last)
    (once : last ∉ mark.dropLast) (absent : ¬ mark <:+: before) (after : Text) :
    Text.cutAt? mark (before ++ (mark ++ after)) = some (before, after) := by
  obtain ⟨start, rfl⟩ := List.getLast?_eq_some_iff.mp ends
  rw [List.dropLast_concat] at once
  refine Text.cutAt?_append ?_ after
  rintro ⟨front, back, same⟩
  -- Where the mark ends, the text before it has not ended yet.
  rw [List.dropLast_concat, ← List.append_assoc, List.append_assoc, List.singleton_append] at same
  rcases List.append_eq_append_iff.mp same with ⟨between, inside, rest⟩ | ⟨between, -, rest⟩
  · cases between with
    | nil =>
      rw [List.nil_append] at rest
      exact once (by simp [← rest])
    | cons c more =>
      obtain ⟨rfl, -⟩ := List.cons.inj rest
      exact absent ⟨front, more, by simp [inside]⟩
  · exact once (by simp [rest])

theorem markup?_comment {t : Text} (first : ¬ ("-->" : Text) <:+: t) (rest : Text) :
    markup? ('!' :: ("--" ++ (t ++ ("-->" ++ rest)))) = some (.skipped, rest) := by
  have cut := cutAt?_behind '>' (by decide) (by decide) first rest
  simp only [markup?, exclamation?, Text.dropPrefix?_append, cut, Option.map_some]

theorem markup?_verbatim {t : Text} (first : ¬ ("]]>" : Text) <:+: t) (rest : Text) :
    markup? ('!' :: ("[CDATA[" ++ (t ++ ("]]>" ++ rest)))) = some (.characters t, rest) := by
  have cut := cutAt?_behind '>' (by decide) (by decide) first rest
  have other : Text.dropPrefix? "--" ("[CDATA[" ++ (t ++ ("]]>" ++ rest))) = none := rfl
  simp only [markup?, exclamation?, other, Text.dropPrefix?_append, cut, Option.map_some]

theorem markup?_instruction {t : Text} (first : ¬ ("?>" : Text) <:+: t)
    (begun : t.head? ≠ some '>') (rest : Text) :
    markup? ('?' :: (t ++ ("?>" ++ rest))) = some (.skipped, rest) := by
  have cut := cutAt?_behind '>' (by decide) (by decide) first rest
  have notEnd : ∀ more, t ++ ("?>" ++ rest) ≠ '>' :: more := by
    intro more same
    cases t with
    | nil => cases same
    | cons c others =>
      rw [List.cons_append] at same
      exact begun (by rw [(List.cons.inj same).1, List.head?_cons])
  unfold markup?
  split
  next same => cases same
  next same => cases same
  next same => exact absurd (List.cons.inj same).2 (notEnd _)
  next same =>
    cases same
    simp only [cut, Option.map_some]
  next other => exact absurd rfl (other _)

/-! ## Names of attributes -/

theorem Blanks.dropWhile_append (blanks : Blanks) {c : Char} (other : isSpace c = false)
    (rest : Text) : (blanks.val ++ c :: rest).dropWhile isSpace = c :: rest := by
  rw [List.dropWhile_append_of_pos blanks.isSpace_of_mem, List.dropWhile_cons, other]
  rfl

/-- A name ends at the next blank or equals sign. -/
theorem Blanks.takeWhile_name (blanks : Blanks) {name : Text}
    (inside : ∀ c ∈ name, isNameChar c = true) (rest : Text) :
    (name ++ (blanks.val ++ '=' :: rest)).takeWhile (fun d => d ≠ '=' && !isSpace d) = name := by
  have part : ∀ c ∈ name, (decide (c ≠ '=') && !isSpace c) = true := by
    intro c member
    have notSign : c ≠ '=' := ne_of_class (inside c member) (by decide)
    simp [notSign, isSpace_of_isNameChar (inside c member)]
  rw [List.takeWhile_append_of_pos part]
  have spaced := blanks.isSpace_of_mem
  cases same : blanks.val with
  | nil => simp
  | cons c more =>
    rw [same] at spaced
    simp [spaced c List.mem_cons_self]

theorem attributeNames?_text (a : Attribute) (rest : Text) (fuel : Nat) :
    Node.attributeNames? (fuel + 1) (a.text ++ rest)
      = (Node.attributeNames? fuel rest).map (a.name.val :: ·) := by
  obtain ⟨c, more, named⟩ := List.exists_cons_of_ne_nil a.name.property.1
  have inside := a.name.isNameChar_of_mem
  rw [named] at inside
  have notBlank : isSpace c = false := isSpace_of_isNameChar (inside c List.mem_cons_self)
  let valued : Text := a.quote :: (a.value ++ a.quote :: rest)
  have begins : (a.text ++ rest).dropWhile isSpace
      = c :: (more ++ (a.left.val ++ '=' :: (a.right.val ++ valued))) := by
    have whole : a.text ++ rest
        = a.gap.val ++ c :: (more ++ (a.left.val ++ '=' :: (a.right.val ++ valued))) := by
      simp [Attribute.text, named, valued]
    rw [whole, a.gap.dropWhile_append notBlank]
  have name := a.left.takeWhile_name
    (fun d member => inside d (List.mem_cons_of_mem c member)) (a.right.val ++ valued)
  have sign := a.left.dropWhile_append (by decide : isSpace '=' = false) (a.right.val ++ valued)
  have value : (a.right.val ++ valued).dropWhile isSpace = valued := by
    have notBlank : isSpace a.quote = false := by
      rcases a.quoted with same | same <;> rw [same] <;> decide
    exact a.right.dropWhile_append notBlank _
  have cut := Text.cut?_append_cons a.quote a.value rest a.clear
  have quoted : (decide (a.quote = '"') || decide (a.quote = '\'')) = true := by
    simpa using a.quoted
  rw [Node.attributeNames?, begins]
  simp only [name, List.length_cons, Nat.add_sub_cancel, List.drop_left, sign, value, valued,
    quoted, if_true, cut, Option.bind_some, named]

/-- What follows a name in a tag is read as its attributes. -/
theorem attributeNames?_flatMap (attributes : List Attribute) (gap : Blanks) {fuel : Nat}
    (enough : attributes.length < fuel) :
    Node.attributeNames? fuel (attributes.flatMap Attribute.text ++ gap.val)
      = some (attributes.map fun a => a.name.val) := by
  induction attributes generalizing fuel with
  | nil =>
    obtain ⟨fuel, rfl⟩ := Nat.exists_eq_add_of_lt enough
    have blank : (gap.val ++ []).dropWhile isSpace = [] :=
      List.dropWhile_append_of_pos gap.isSpace_of_mem
    rw [List.append_nil] at blank
    simp [Node.attributeNames?, blank]
  | cons a others ih =>
    cases fuel with
    | zero => cases enough
    | succ fuel =>
      rw [List.flatMap_cons, List.append_assoc, attributeNames?_text,
        ih (Nat.lt_of_succ_lt_succ enough)]
      rfl

/-- No tag has two attributes of one name. -/
theorem Tag.soundAttributes (tag : Tag) : Node.soundAttributes tag.attributesText = true := by
  have enough : tag.attributes.length < tag.attributesText.length + 1 := by
    have long : tag.attributes.length ≤ (tag.attributes.flatMap Attribute.text).length := by
      induction tag.attributes with
      | nil => simp
      | cons a others ih =>
        simp only [List.flatMap_cons, List.length_append, List.length_cons, Attribute.text]
        omega
    rw [Tag.attributesText, List.length_append]
    omega
  have names := attributeNames?_flatMap tag.attributes tag.gap enough
  rw [← Tag.attributesText] at names
  rw [Node.soundAttributes, names]
  exact decide_eq_true tag.distinct

end UploadInbox.Xml
