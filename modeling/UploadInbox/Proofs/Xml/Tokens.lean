import UploadInbox.Proofs.Xml.Markup

/-!
# Parts of what is written

The parts of a text do not depend on the steps that are allowed for them, if these are as many as
its characters. So each thing that is written gives its parts, whatever follows it, and a content
gives the parts of what it is read as.
-/
namespace UploadInbox.Xml

/-! ## Reading step by step -/

theorem tokensIn_congr {fuel others : Nat} {opened : List Text} {t : Text}
    (enough : t.length ≤ fuel) (enough_others : t.length ≤ others) :
    tokensIn fuel opened t = tokensIn others opened t := by
  induction fuel generalizing others opened t with
  | zero =>
    rw [List.eq_nil_of_length_eq_zero (Nat.le_zero.mp enough)]
    cases others <;> simp [tokensIn]
  | succ fuel ih =>
    cases t with
    | nil => cases others <;> simp [tokensIn]
    | cons c rest =>
      cases others with
      | zero => cases enough_others
      | succ others =>
        have later {opened : List Text} {t : Text} (short : t.length ≤ rest.length) :
            tokensIn fuel opened t = tokensIn others opened t :=
          ih (Nat.le_trans short (Nat.le_of_succ_le_succ enough))
            (Nat.le_trans short (Nat.le_of_succ_le_succ enough_others))
        simp only [tokensIn]
        by_cases sign : c = '<'
        · simp only [if_pos sign]
          cases read : markup? rest with
          | none => rfl
          | some found =>
            obtain ⟨markup, after⟩ := found
            have short := length_markup? read
            cases markup with
            | opening => simp only [later short]
            | empty => simp only [later short]
            | characters => simp only [later short]
            | skipped => exact later short
            | closing =>
              cases opened with
              | nil => rfl
              | cons current above => simp only [later short]
        · by_cases ampersand : c = '&'
          · simp only [if_neg sign, if_pos ampersand]
            split
            next after same =>
              have short : after.length ≤ rest.length := by
                have part := congrArg List.length same
                rw [List.length_drop, List.length_cons] at part
                omega
              rw [later short]
            next => rfl
          · simp only [if_neg sign, if_neg ampersand]
            rw [later (List.drop_sublist _ rest).length_le]

/-- The parts of a text, given the names of the elements that are open. -/
def tokensFrom (opened : List Text) (t : Text) : List Token := tokensIn t.length opened t

variable {opened : List Text}

theorem tokensFrom_nil : tokensFrom opened [] = [] := by
  simp [tokensFrom, tokensIn]

theorem tokensIn_eq {fuel : Nat} {t : Text} (enough : t.length ≤ fuel) :
    tokensIn fuel opened t = tokensFrom opened t :=
  tokensIn_congr enough (Nat.le_refl _)

/-- Whether characters end in front of a text. -/
def Stops (t : Text) : Prop := ∀ c, t.head? = some c → isPlain c = false

theorem stops_nil : Stops [] := nofun

theorem stops_append {t : Text} {c : Char} (begins : t.head? = some c) (sign : isPlain c = false)
    (rest : Text) : Stops (t ++ rest) := by
  obtain ⟨more, rfl⟩ := List.head?_eq_some_iff.mp begins
  rintro d head
  cases head
  exact sign

/-- Characters that stand for themselves are one part, up to the next markup. -/
theorem tokensFrom_run (run : Run) {rest : Text} (stops : Stops rest) :
    tokensFrom opened (run.val ++ rest)
      = (if run.val = [] then [] else [.characters run.val]) ++ tokensFrom opened rest := by
  have plain := run.isPlain_of_mem
  cases same : run.val with
  | nil => rfl
  | cons c more =>
    rw [same] at plain
    have first := plain c List.mem_cons_self
    have taken : (more ++ rest).takeWhile isPlain = more := by
      rw [List.takeWhile_append_of_pos fun d member => plain d (List.mem_cons_of_mem c member)]
      cases rest with
      | nil => simp
      | cons d others => simp [stops d rfl]
    have sign : c ≠ '<' := ne_of_class first (by decide)
    have ampersand : c ≠ '&' := ne_of_class first (by decide)
    have short : rest.length ≤ (more ++ rest).length := by simp
    simp only [tokensFrom, List.cons_append, List.length_cons, tokensIn, if_neg sign,
      if_neg ampersand, taken, List.drop_left]
    rw [tokensIn_eq short]
    rfl

theorem tokensFrom_reference {name : Text}
    (clear : name.all (fun c => c ≠ ';' && c ≠ '&' && c ≠ '<') = true) (rest : Text) :
    tokensFrom opened ('&' :: (name ++ ';' :: rest))
      = .reference name :: tokensFrom opened rest := by
  have taken : (name ++ ';' :: rest).takeWhile (fun d => d ≠ ';' && d ≠ '&' && d ≠ '<') = name := by
    rw [List.takeWhile_append_of_pos (List.all_eq_true.mp clear)]
    simp
  have short : rest.length ≤ (name ++ ';' :: rest).length := by simp; omega
  have other : '&' ≠ '<' := by decide
  simp only [tokensFrom, List.length_cons, tokensIn, if_neg other, if_true, taken, List.drop_left]
  rw [tokensIn_eq short]
  rfl

section Markup

variable {rest after name attributes : Text}

theorem tokensFrom_skipped (read : markup? rest = some (.skipped, after)) :
    tokensFrom opened ('<' :: rest) = tokensFrom opened after := by
  simp only [tokensFrom, List.length_cons, tokensIn, if_true, read]
  exact tokensIn_eq (length_markup? read)

theorem tokensFrom_verbatim {t : Text} (read : markup? rest = some (.characters t, after)) :
    tokensFrom opened ('<' :: rest) = .characters t :: tokensFrom opened after := by
  simp only [tokensFrom, List.length_cons, tokensIn, if_true, read]
  rw [tokensIn_eq (length_markup? read)]
  rfl

theorem tokensFrom_opening (read : markup? rest = some (.opening name attributes, after)) :
    tokensFrom opened ('<' :: rest)
      = .opening name attributes :: tokensFrom (name :: opened) after := by
  simp only [tokensFrom, List.length_cons, tokensIn, if_true, read]
  rw [tokensIn_eq (length_markup? read)]
  rfl

theorem tokensFrom_empty (read : markup? rest = some (.empty name attributes, after)) :
    tokensFrom opened ('<' :: rest)
      = .opening name attributes :: .closing :: tokensFrom opened after := by
  simp only [tokensFrom, List.length_cons, tokensIn, if_true, read]
  rw [tokensIn_eq (length_markup? read)]
  rfl

theorem tokensFrom_closing (read : markup? rest = some (.closing name, after)) :
    tokensFrom (name :: opened) ('<' :: rest) = .closing :: tokensFrom opened after := by
  simp only [tokensFrom, List.length_cons, tokensIn, if_true, read]
  rw [tokensIn_eq (length_markup? read)]
  rfl

end Markup

/-! ## Reading contents -/

mutual
def Node.ownTokens : Node → List Token
  | .characters t => [.characters t]
  | .reference name => [.reference name]
  | .element name attributes content =>
    .opening name attributes :: (Node.tokens content ++ [.closing])

def Node.tokens : List Node → List Token
  | [] => []
  | node :: rest => node.ownTokens ++ Node.tokens rest
end

theorem Node.tokens_append (nodes others : List Node) :
    Node.tokens (nodes ++ others) = Node.tokens nodes ++ Node.tokens others := by
  induction nodes with
  | nil => rfl
  | cons node nodes ih => simp only [List.cons_append, Node.tokens, ih, List.append_assoc]

theorem Run.tokens_nodes (run : Run) :
    Node.tokens run.nodes = if run.val = [] then [] else [.characters run.val] := by
  rw [Run.nodes]
  split <;> rfl

/-- The parts of nodes are put together to these nodes, whatever follows their end. -/
theorem content?_tokens {nodes : List Node} {fuel : Nat}
    (enough : (Node.tokens nodes).length < fuel) (rest : List Token) :
    Node.content? fuel (Node.tokens nodes ++ .closing :: rest) = some (nodes, rest) := by
  induction fuel generalizing nodes rest with
  | zero => cases enough
  | succ fuel ih =>
    cases nodes with
    | nil => rfl
    | cons node nodes =>
      cases node with
      | characters t =>
        have behind := ih (Nat.lt_of_succ_lt_succ enough) rest
        simp only [Node.tokens, Node.ownTokens, List.cons_append, List.nil_append, Node.content?]
        rw [behind]
        rfl
      | reference name =>
        have behind := ih (Nat.lt_of_succ_lt_succ enough) rest
        simp only [Node.tokens, Node.ownTokens, List.cons_append, List.nil_append, Node.content?]
        rw [behind]
        rfl
      | element name attributes content =>
        simp only [Node.tokens, Node.ownTokens, List.length_cons, List.length_append] at enough
        have inner : (Node.tokens content).length < fuel := by omega
        have behind : (Node.tokens nodes).length < fuel := by omega
        simp only [Node.tokens, Node.ownTokens, List.cons_append, List.nil_append,
          List.append_assoc, Node.content?, ih inner, ih behind, Option.map_some]

theorem Item.tokensFrom_text (piece : Item) (rest : Text) :
    tokensFrom opened (piece.text ++ rest)
      = Node.tokens piece.nodes ++ tokensFrom opened rest := by
  cases piece with
  | reference name clear =>
    have whole : (reference name clear).text ++ rest = '&' :: (name ++ ';' :: rest) := by
      unfold Item.text
      simp
    rw [whole, tokensFrom_reference clear]
    rfl
  | verbatim t first =>
    have whole : (verbatim t first).text ++ rest
        = '<' :: '!' :: ("[CDATA[" ++ (t ++ ("]]>" ++ rest))) := by
      unfold Item.text
      simp
    rw [whole, tokensFrom_verbatim (markup?_verbatim first rest)]
    rfl
  | comment t first =>
    have whole : (comment t first).text ++ rest
        = '<' :: '!' :: ("--" ++ (t ++ ("-->" ++ rest))) := by
      unfold Item.text
      simp
    rw [whole, tokensFrom_skipped (markup?_comment first rest)]
    rfl
  | instruction t first begun =>
    have whole : (instruction t first begun).text ++ rest
        = '<' :: '?' :: (t ++ ("?>" ++ rest)) := by
      unfold Item.text
      simp
    rw [whole, tokensFrom_skipped (markup?_instruction first begun rest)]
    rfl

theorem Item.stops (piece : Item) (rest : Text) : Stops (piece.text ++ rest) := by
  have begins : piece.text.head? = some '&' ∨ piece.text.head? = some '<' := by
    cases piece with
    | reference => exact .inl rfl
    | verbatim | comment | instruction => exact .inr rfl
  rcases begins with reference | markup
  · exact stops_append reference (by decide) rest
  · exact stops_append markup (by decide) rest

theorem Tag.tokensFrom_opening (tag : Tag) (rest : Text) :
    tokensFrom opened (tag.opening ++ rest)
      = .opening tag.name.val tag.attributesText :: tokensFrom (tag.name.val :: opened) rest := by
  have whole : tag.opening ++ rest
      = '<' :: (tag.name.val ++ tag.attributesText ++ '>' :: rest) := by simp [Tag.opening]
  rw [whole, Xml.tokensFrom_opening (tag.markup?_opening rest)]

theorem Tag.tokensFrom_closing (tag : Tag) (rest : Text) :
    tokensFrom (tag.name.val :: opened) (tag.closing ++ rest)
      = .closing :: tokensFrom opened rest := by
  have whole : tag.closing ++ rest
      = '<' :: '/' :: (tag.name.val ++ tag.closingGap.val ++ '>' :: rest) := by simp [Tag.closing]
  rw [whole, Xml.tokensFrom_closing (tag.markup?_closing rest)]

theorem Tag.tokensFrom_empty (tag : Tag) (rest : Text) :
    tokensFrom opened (tag.empty ++ rest)
      = .opening tag.name.val tag.attributesText :: .closing :: tokensFrom opened rest := by
  have whole : tag.empty ++ rest
      = '<' :: (tag.name.val ++ tag.attributesText ++ '/' :: '>' :: rest) := by simp [Tag.empty]
  rw [whole, Xml.tokensFrom_empty (tag.markup?_empty rest)]

theorem Tag.stops_opening (tag : Tag) (rest : Text) : Stops (tag.opening ++ rest) :=
  stops_append rfl (by decide : isPlain '<' = false) rest

theorem Tag.stops_closing (tag : Tag) (rest : Text) : Stops (tag.closing ++ rest) :=
  stops_append rfl (by decide : isPlain '<' = false) rest

theorem Tag.stops_empty (tag : Tag) (rest : Text) : Stops (tag.empty ++ rest) :=
  stops_append rfl (by decide : isPlain '<' = false) rest

/-- A content gives the parts of its nodes, whatever elements are open around it. -/
theorem Content.tokensFrom_text (content : Content) {rest : Text} (stops : Stops rest) :
    tokensFrom opened (content.text ++ rest)
      = Node.tokens content.nodes ++ tokensFrom opened rest := by
  induction content generalizing opened rest with
  | done before => rw [text, nodes, Run.tokens_nodes, tokensFrom_run before stops]
  | item before piece next ih =>
    simp only [text, nodes, List.append_assoc, Node.tokens_append, Run.tokens_nodes]
    rw [tokensFrom_run before (piece.stops _), piece.tokensFrom_text, ih stops]
  | element before tag inner next ih_inner ih =>
    simp only [text, nodes, List.append_assoc, Node.tokens_append, Run.tokens_nodes, Node.tokens,
      Node.ownTokens, List.cons_append, List.nil_append]
    rw [tokensFrom_run before (tag.stops_opening _), tag.tokensFrom_opening,
      ih_inner (tag.stops_closing _), tag.tokensFrom_closing, ih stops]
  | empty before tag next ih =>
    simp only [text, nodes, List.append_assoc, Node.tokens_append, Run.tokens_nodes, Node.tokens,
      Node.ownTokens, List.cons_append, List.nil_append]
    rw [tokensFrom_run before (tag.stops_empty _), tag.tokensFrom_empty, ih stops]

theorem Content.tokensFrom_whole (opened : List Text) (content : Content) :
    tokensFrom opened content.text = Node.tokens content.nodes := by
  have read : tokensFrom opened (content.text ++ [])
      = Node.tokens content.nodes ++ tokensFrom opened [] := content.tokensFrom_text stops_nil
  rwa [List.append_nil, tokensFrom_nil, List.append_nil] at read

/-- What a content is read as is known by its text. -/
theorem Content.nodes_eq_of_text_eq {content other : Content} (same : content.text = other.text) :
    content.nodes = other.nodes := by
  have tokens : Node.tokens content.nodes = Node.tokens other.nodes := by
    rw [← tokensFrom_whole [], same, tokensFrom_whole]
  have nodes (nodes : List Node) :=
    content?_tokens (Nat.lt_succ_self (Node.tokens nodes).length) []
  have read := nodes content.nodes
  rw [tokens, nodes other.nodes] at read
  exact (Prod.mk.inj (Option.some.inj read)).1.symm

end UploadInbox.Xml
