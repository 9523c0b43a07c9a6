import UploadInbox.Proofs.Xml.Tokens

/-!
# Documents read back

A document is read as its element, and a content without characters of its own as its elements in
their order: blanks, comments and instructions between them leave no trace.
-/
namespace UploadInbox.Xml

namespace Node

/-! ## Ends of lines -/

theorem unifyLineEnds_cons {c : Char} (other : c ≠ '\r') (t : Text) :
    unifyLineEnds (c :: t) = c :: unifyLineEnds t := by
  rw [unifyLineEnds]
  · intro rest same
    exact absurd same other
  · exact other

theorem unifyLineEnds_return {t : Text} (alone : t.head? ≠ some '\n') :
    unifyLineEnds ('\r' :: t) = '\n' :: unifyLineEnds t := by
  rw [unifyLineEnds]
  rintro rest rfl
  exact alone rfl

theorem all_unifyLineEnds {t : Text} (blank : t.all isSpace = true) :
    (unifyLineEnds t).all isSpace = true := by
  induction t using unifyLineEnds.induct with
  | case1 rest ih =>
    simp only [List.all_cons, Bool.and_eq_true] at blank
    simpa [unifyLineEnds, isSpace] using ih blank.2.2
  | case2 rest other ih =>
    simp only [List.all_cons, Bool.and_eq_true] at blank
    simpa [unifyLineEnds, isSpace] using ih blank.2
  | case3 c rest other first ih =>
    simp only [List.all_cons, Bool.and_eq_true] at blank
    simpa [unifyLineEnds, blank.1] using ih blank.2
  | case4 => rfl

/-- A character that is no end of a line divides a text for this. -/
theorem unifyLineEnds_append_cons {c : Char} (notFeed : c ≠ '\n') (notReturn : c ≠ '\r')
    (s t : Text) : unifyLineEnds (s ++ c :: t) = unifyLineEnds s ++ c :: unifyLineEnds t := by
  induction s using unifyLineEnds.induct with
  | case1 rest ih => simp [unifyLineEnds, ih]
  | case2 rest other ih =>
    have alone : rest.head? ≠ some '\n' := by
      intro head
      obtain ⟨more, same⟩ := List.head?_eq_some_iff.mp head
      exact other more same
    have alone_behind : (rest ++ c :: t).head? ≠ some '\n' := by
      cases rest with
      | nil => simpa using notFeed
      | cons d more => simpa using alone
    rw [List.cons_append, unifyLineEnds_return alone_behind, unifyLineEnds_return alone, ih]
    rfl
  | case3 d rest other first ih =>
    rw [List.cons_append, unifyLineEnds_cons first, unifyLineEnds_cons first, ih]
    rfl
  | case4 => exact unifyLineEnds_cons notReturn t

theorem return_not_mem_unifyLineEnds (t : Text) : '\r' ∉ unifyLineEnds t := by
  induction t using unifyLineEnds.induct with
  | case1 rest ih => simpa [unifyLineEnds] using ih
  | case2 rest other ih => simpa [unifyLineEnds] using ih
  | case3 c rest other first ih => simpa [unifyLineEnds, Ne.symm first] using ih
  | case4 => simp [unifyLineEnds]

theorem unifyLineEnds_eq_self_iff {t : Text} : unifyLineEnds t = t ↔ '\r' ∉ t := by
  constructor
  · intro same
    rw [← same]
    exact return_not_mem_unifyLineEnds t
  · intro absent
    induction t with
    | nil => rfl
    | cons c rest ih =>
      have other : c ≠ '\r' := fun same => absent (by simp [same])
      rw [unifyLineEnds_cons other, ih fun member => absent (List.mem_cons_of_mem c member)]

/-! ## Texts of nodes -/

theorem text?_append {nodes others : List Node} {s t : Text} (front : text? nodes = some s)
    (back : text? others = some t) : text? (nodes ++ others) = some (s ++ t) := by
  induction nodes generalizing s with
  | nil =>
    cases front
    exact back
  | cons node nodes ih =>
    cases node with
    | characters u =>
      obtain ⟨rest, inner, rfl⟩ := Option.map_eq_some_iff.mp front
      rw [List.cons_append, text?, ih inner, Option.map_some, List.append_assoc]
    | reference name =>
      rw [text?] at front
      rw [List.cons_append, text?]
      split at front
      next c rest resolved inner =>
        cases front
        rw [resolved, ih inner]
        rfl
      next => cases front
    | element => cases front

end Node

/-- Comments and instructions leave no trace. -/
theorem Item.nodes_of_isSilent (piece : Item) (silent : piece.isSilent = true) :
    piece.nodes = [] := by
  cases piece with
  | comment | instruction => rfl
  | reference | verbatim => cases silent

namespace Run

variable {run : Run}

/-- Blanks only lengthen the text before the next element. -/
theorem partsAfter_nodes (blank : run.val.all isSpace = true) {before : Text}
    (before_blank : before.all isSpace = true) (nodes : List Node) :
    ∃ between : Text, between.all isSpace = true ∧
      Node.partsAfter before (run.nodes ++ nodes) = Node.partsAfter between nodes := by
  rw [Run.nodes]
  split
  next => exact ⟨before, before_blank, rfl⟩
  next =>
    refine ⟨before ++ Node.unifyLineEnds run.val, ?_, rfl⟩
    rw [List.all_append, before_blank, Node.all_unifyLineEnds blank]
    rfl

theorem text?_nodes (run : Run) : Node.text? run.nodes = some (Node.unifyLineEnds run.val) := by
  rw [Run.nodes]
  split
  next none => simp [none, Node.text?, Node.unifyLineEnds]
  next => simp [Node.text?]

end Run

namespace Content

/-- An element as a part of what it stands in. -/
def part (element : Tag × Content) : Node.Part :=
  .element element.1.name.val element.1.attributesText element.2.nodes

theorem partsAfter_nodes {content : Content} (spaced : content.isSpaced = true) {before : Text}
    (blank : before.all isSpace = true) :
    Node.partsAfter before content.nodes = some (content.elements.map part) := by
  induction content generalizing before with
  | done run =>
    obtain ⟨between, blank, same⟩ := Run.partsAfter_nodes spaced blank []
    rw [List.append_nil] at same
    rw [nodes, same, Node.partsAfter, if_pos blank]
    rfl
  | item run piece next ih =>
    simp only [isSpaced, Bool.and_eq_true] at spaced
    obtain ⟨⟨run_blank, silent⟩, spaced⟩ := spaced
    obtain ⟨between, blank, same⟩ := Run.partsAfter_nodes run_blank blank next.nodes
    rw [nodes, piece.nodes_of_isSilent silent, List.nil_append, same, ih spaced blank]
    rfl
  | element run tag inner next ih_inner ih =>
    simp only [isSpaced, Bool.and_eq_true] at spaced
    obtain ⟨between, blank, same⟩ := Run.partsAfter_nodes spaced.1 blank
      (.element tag.name.val tag.attributesText inner.nodes :: next.nodes)
    rw [nodes, same, Node.partsAfter, ih spaced.2 rfl, if_pos blank]
    rfl
  | empty run tag next ih =>
    simp only [isSpaced, Bool.and_eq_true] at spaced
    obtain ⟨between, blank, same⟩ := Run.partsAfter_nodes spaced.1 blank
      (.element tag.name.val tag.attributesText [] :: next.nodes)
    rw [nodes, same, Node.partsAfter, ih spaced.2 rfl, if_pos blank]
    rfl

/-- Of what holds elements only, the elements are read, in their order. -/
theorem parts?_nodes {content : Content} (spaced : content.isSpaced = true) :
    Node.parts? content.nodes = some (content.elements.map part) :=
  partsAfter_nodes spaced rfl

/-! ## The element of a document -/

/-- A document begins with a blank or with a markup. -/
theorem head?_text {content : Content} (spaced : content.isSpaced = true) {c : Char}
    (head : content.text.head? = some c) : isSpace c = true ∨ c = '<' := by
  have begins {run : Run} (blank : run.val.all isSpace = true) {rest : Text}
      (behind : rest.head? = some '<') (head : (run.val ++ rest).head? = some c) :
      isSpace c = true ∨ c = '<' := by
    rw [List.head?_append] at head
    cases first : run.val.head? with
    | none =>
      rw [first, behind] at head
      cases head
      exact .inr rfl
    | some d =>
      rw [first] at head
      cases head
      exact .inl (List.all_eq_true.mp blank c (List.mem_of_head? first))
  cases content with
  | done run => exact .inl (List.all_eq_true.mp spaced c (List.mem_of_head? head))
  | item run piece next =>
    simp only [isSpaced, Bool.and_eq_true] at spaced
    have behind : (piece.text ++ next.text).head? = some '<' := by
      cases piece with
      | comment | instruction => rfl
      | reference | verbatim => cases spaced.1.2
    exact begins spaced.1.1 behind head
  | element run tag inner next =>
    simp only [isSpaced, Bool.and_eq_true] at spaced
    exact begins spaced.1 rfl head
  | empty run tag next =>
    simp only [isSpaced, Bool.and_eq_true] at spaced
    exact begins spaced.1 rfl head

theorem tokens_text {content : Content} (spaced : content.isSpaced = true) :
    Xml.tokens content.text = Node.tokens content.nodes := by
  have unmarked : content.text.head? ≠ some '\uFEFF' := by
    intro mark
    rcases head?_text spaced mark with blank | sign
    · exact absurd blank (by decide)
    · exact absurd sign (by decide)
  rw [Xml.tokens, if_neg unmarked]
  exact content.tokensFrom_whole []

/-- Whether nodes may stand before the element of a document. -/
def IsBlank (nodes : List Node) : Prop :=
  ∃ t : Text, Node.text? nodes = some t ∧ t.all isSpace = true

theorem rootAfter?_run {run : Run} (blank : run.val.all isSpace = true) {before : List Node}
    (before_blank : IsBlank before) (tokens : List Token) :
    ∃ between, IsBlank between ∧
      Node.rootAfter? before (Node.tokens run.nodes ++ tokens)
        = Node.rootAfter? between tokens := by
  rw [Run.nodes]
  split
  next => exact ⟨before, before_blank, rfl⟩
  next =>
    obtain ⟨t, text, all⟩ := before_blank
    have unified := Node.all_unifyLineEnds blank
    refine ⟨before ++ [.characters run.val], ⟨t ++ (Node.unifyLineEnds run.val ++ []), ?_, ?_⟩, rfl⟩
    · exact Node.text?_append text rfl
    · rw [List.append_nil, List.all_append, all, unified]
      rfl

/-- An element behind blanks is the element of the document. -/
theorem rootAfter?_opening {before : List Node} (blank : IsBlank before) (tag : Tag)
    (nodes : List Node) (rest : List Token) :
    Node.rootAfter? before
        (.opening tag.name.val tag.attributesText :: (Node.tokens nodes ++ .closing :: rest))
      = some (.element tag.name.val tag.attributesText nodes) := by
  obtain ⟨t, text, all⟩ := blank
  have enough : (Node.tokens nodes).length
      < (Node.tokens nodes ++ Token.closing :: rest).length + 1 := by
    rw [List.length_append]
    omega
  rw [Node.rootAfter?, text, content?_tokens enough rest]
  exact if_pos all

theorem rootAfter?_tokens {content : Content} (spaced : content.isSpaced = true)
    {element : Tag × Content} (first : content.elements.head? = some element) {before : List Node}
    (blank : IsBlank before) :
    Node.rootAfter? before (Node.tokens content.nodes) = some (part element) := by
  induction content generalizing before with
  | done => cases first
  | item run piece next ih =>
    simp only [isSpaced, Bool.and_eq_true] at spaced
    obtain ⟨⟨run_blank, silent⟩, spaced⟩ := spaced
    obtain ⟨between, blank, same⟩ := rootAfter?_run run_blank blank (Node.tokens next.nodes)
    rw [nodes, piece.nodes_of_isSilent silent, List.nil_append, Node.tokens_append, same,
      ih spaced first blank]
  | element run tag inner next ih_inner ih =>
    simp only [isSpaced, Bool.and_eq_true] at spaced
    cases first
    obtain ⟨between, blank, same⟩ := rootAfter?_run spaced.1 blank
      (.opening tag.name.val tag.attributesText
        :: (Node.tokens inner.nodes ++ .closing :: Node.tokens next.nodes))
    have opened := rootAfter?_opening blank tag inner.nodes (Node.tokens next.nodes)
    simp only [nodes, Node.tokens_append, Node.tokens, Node.ownTokens, List.cons_append,
      List.append_assoc, List.nil_append, same, opened]
    rfl
  | empty run tag next ih =>
    simp only [isSpaced, Bool.and_eq_true] at spaced
    cases first
    obtain ⟨between, blank, same⟩ := rootAfter?_run spaced.1 blank
      (.opening tag.name.val tag.attributesText
        :: (Node.tokens [] ++ .closing :: Node.tokens next.nodes))
    have opened := rootAfter?_opening blank tag [] (Node.tokens next.nodes)
    simp only [nodes, Node.tokens_append, Node.tokens, Node.ownTokens, List.cons_append,
      List.nil_append] at same opened ⊢
    rw [same, opened]
    rfl

/-- A document is read as its element. -/
theorem root?_text {document : Content} (spaced : document.isSpaced = true)
    {element : Tag × Content} (only : document.elements = [element]) :
    Node.root? document.text = some (part element) := by
  have first : document.elements.head? = some element := by rw [only]; rfl
  rw [Node.root?, tokens_text spaced]
  exact rootAfter?_tokens spaced first ⟨[], rfl, rfl⟩

end Content
end UploadInbox.Xml
