import UploadInbox.Error
import UploadInbox.Proofs.Xml.Conformance

/-!
# Escaped texts

Escaping is one map on characters and also five exchanges one after the other, of which the first
must be that of the ampersand. What it writes is a content of characters and references, from which
the text comes back: exactly when the references are resolved, and with every end of a line written
in the one way when a document is read. No character is escaped because it may not stand in a
document.
-/
namespace UploadInbox.Xml

/-- The characters that are escaped. -/
inductive Entity where
  | amp | lt | gt | quot | apos
  deriving DecidableEq, Repr

namespace Entity

def name : Entity → Text
  | amp => "amp"
  | lt => "lt"
  | gt => "gt"
  | quot => "quot"
  | apos => "apos"

def char : Entity → Char
  | amp => '&'
  | lt => '<'
  | gt => '>'
  | quot => '"'
  | apos => '\''

/-- The reference that stands for the character. -/
def text (entity : Entity) : Text := '&' :: (entity.name ++ [';'])

def all : List Entity := [amp, lt, gt, quot, apos]

def ofChar? (c : Char) : Option Entity := all.find? fun entity => entity.char = c

theorem char_eq_of_ofChar? {c : Char} {entity : Entity} (found : ofChar? c = some entity) :
    entity.char = c := by
  simpa using List.find?_some found

theorem ofChar?_char (entity : Entity) : ofChar? entity.char = some entity := by
  cases entity <;> decide

theorem resolve?_name (entity : Entity) : Node.resolve? entity.name = some entity.char := by
  cases entity <;> decide

theorem clear (entity : Entity) :
    entity.name.all (fun c => c ≠ ';' && c ≠ '&' && c ≠ '<') = true := by
  cases entity <;> decide

end Entity

theorem escapeChar_char (entity : Entity) : escapeChar entity.char = entity.text := by
  cases entity <;> decide

/-- Whether a character is none of the five. -/
def IsBare (c : Char) : Prop := c ≠ '&' ∧ c ≠ '<' ∧ c ≠ '>' ∧ c ≠ '"' ∧ c ≠ '\''

theorem isBare_of_none {c : Char} (plain : Entity.ofChar? c = none) : IsBare c := by
  have other (entity : Entity) : c ≠ entity.char := by
    rintro rfl
    rw [entity.ofChar?_char] at plain
    cases plain
  exact ⟨other .amp, other .lt, other .gt, other .quot, other .apos⟩

theorem escapeChar_of_isBare {c : Char} (bare : IsBare c) : escapeChar c = [c] := by
  obtain ⟨amp, lt, gt, quot, apos⟩ := bare
  rw [escapeChar, if_neg amp, if_neg lt, if_neg gt, if_neg quot, if_neg apos]

theorem isPlain_of_isBare {c : Char} (bare : IsBare c) : isPlain c = true := by
  simp [isPlain, bare.1, bare.2.1]

/-! ## What is written -/

theorem escape_cons (c : Char) (t : Text) : escape (c :: t) = escapeChar c ++ escape t :=
  List.flatMap_cons

theorem escape_append (s t : Text) : escape (s ++ t) = escape s ++ escape t :=
  List.flatMap_append

theorem escape_of_forall {t : Text} (bare : ∀ c ∈ t, IsBare c) : escape t = t := by
  induction t with
  | nil => rfl
  | cons c rest ih =>
    rw [escape_cons, escapeChar_of_isBare (bare c List.mem_cons_self),
      ih fun d member => bare d (List.mem_cons_of_mem c member)]
    rfl

theorem exchange_append (c : Char) (replacement s t : Text) :
    Text.exchange c replacement (s ++ t)
      = Text.exchange c replacement s ++ Text.exchange c replacement t :=
  List.flatMap_append

theorem exchange_of_ne {c d : Char} (other : d ≠ c) (replacement : Text) :
    Text.exchange c replacement [d] = [d] := by
  simp [Text.exchange, other]

/-- One after the other the five characters are exchanged, the ampersand first. -/
theorem escape_eq_exchange (t : Text) :
    escape t = Text.exchange '\'' "&apos;" (Text.exchange '"' "&quot;" (Text.exchange '>' "&gt;"
      (Text.exchange '<' "&lt;" (Text.exchange '&' "&amp;" t)))) := by
  induction t with
  | nil => rfl
  | cons c rest ih =>
    have apart : c :: rest = [c] ++ rest := rfl
    rw [escape_cons, ih, apart]
    simp only [exchange_append, List.append_cancel_right_eq]
    cases found : Entity.ofChar? c with
    | some entity =>
      rw [← Entity.char_eq_of_ofChar? found]
      cases entity <;> decide
    | none =>
      have bare := isBare_of_none found
      rw [escapeChar_of_isBare bare]
      obtain ⟨amp, lt, gt, quot, apos⟩ := bare
      rw [exchange_of_ne amp, exchange_of_ne lt, exchange_of_ne gt, exchange_of_ne quot,
        exchange_of_ne apos]

/-- Of the five characters only the ampersand is left. -/
theorem not_mem_escape (entity : Entity) (other : entity ≠ .amp) (t : Text) :
    entity.char ∉ escape t := by
  rw [escape, List.mem_flatMap]
  rintro ⟨c, -, member⟩
  cases found : Entity.ofChar? c with
  | some written =>
    rw [← Entity.char_eq_of_ofChar? found, escapeChar_char] at member
    revert other member
    cases entity <;> cases written <;> decide
  | none =>
    rw [escapeChar_of_isBare (isBare_of_none found), List.mem_singleton] at member
    rw [← member, Entity.ofChar?_char] at found
    cases found

/-- Whatever may not stand in a document is written as it is. -/
theorem all_isChar_escape (t : Text) : (escape t).all isChar = t.all isChar := by
  induction t with
  | nil => rfl
  | cons c rest ih =>
    have alone : (escapeChar c).all isChar = isChar c := by
      cases found : Entity.ofChar? c with
      | some entity =>
        rw [← Entity.char_eq_of_ofChar? found]
        cases entity <;> decide
      | none =>
        rw [escapeChar_of_isBare (isBare_of_none found)]
        exact Bool.and_true _
    rw [escape_cons, List.all_append, alone, ih, List.all_cons]

/-- An ampersand in what one character is written as begins it. -/
theorem ampersand_escapeChar {c : Char} {before after : Text}
    (split : escapeChar c = before ++ '&' :: after) :
    ∃ entity : Entity, c = entity.char ∧ before = [] ∧ after = entity.name ++ [';'] := by
  cases found : Entity.ofChar? c with
  | some entity =>
    have same := Entity.char_eq_of_ofChar? found
    rw [← same, escapeChar_char, Entity.text] at split
    cases before with
    | nil => exact ⟨entity, same.symm, rfl, (List.cons.inj split).2.symm⟩
    | cons d more =>
      have member : '&' ∈ entity.name ++ [';'] := by simp [(List.cons.inj split).2]
      rcases List.mem_append.mp member with inside | last
      · exact absurd (List.all_eq_true.mp entity.clear '&' inside) (by decide)
      · exact absurd (List.mem_singleton.mp last) (by decide)
  | none =>
    have bare := isBare_of_none found
    have member : '&' ∈ escapeChar c := by simp [split]
    rw [escapeChar_of_isBare bare, List.mem_singleton] at member
    exact absurd member.symm bare.1

/-- Every ampersand begins the reference of one character. -/
theorem ampersand_escape {t before after : Text} (split : escape t = before ++ '&' :: after) :
    ∃ (front back : Text) (entity : Entity), t = front ++ entity.char :: back ∧
      before = escape front ∧ after = entity.name ++ ';' :: escape back := by
  induction t generalizing before with
  | nil => exact absurd split (by simp [escape])
  | cons c rest ih =>
    have later (more : Text) (same : before = escapeChar c ++ more)
        (split : escape rest = more ++ '&' :: after) :
        ∃ (front back : Text) (entity : Entity), c :: rest = front ++ entity.char :: back ∧
          before = escape front ∧ after = entity.name ++ ';' :: escape back := by
      obtain ⟨front, back, entity, rfl, rfl, rfl⟩ := ih split
      exact ⟨c :: front, back, entity, rfl, same, rfl⟩
    rw [escape_cons] at split
    rcases List.append_eq_append_iff.mp split with ⟨more, same, behind⟩ | ⟨more, here, behind⟩
    · exact later more same behind
    · cases more with
      | nil => exact later [] (by rw [here, List.append_nil, List.append_nil]) behind.symm
      | cons d more =>
        obtain ⟨rfl, rfl⟩ := List.cons.inj behind
        obtain ⟨entity, rfl, rfl, rfl⟩ := ampersand_escapeChar here
        exact ⟨[], rest, entity, rfl, rfl, by simp⟩

/-- A reference that stands in a text already is escaped once more. -/
theorem escape_entity (before : Text) (entity : Entity) (after : Text) :
    escape (before ++ (entity.text ++ after))
      = escape before ++ (Entity.amp.text ++ (entity.name ++ ';' :: escape after)) := by
  have bare : escape (entity.name ++ [';']) = entity.name ++ [';'] := by
    cases entity <;> decide
  have written : escape entity.text = Entity.amp.text ++ (entity.name ++ [';']) := by
    rw [Entity.text, escape_cons, bare]
    rfl
  rw [escape_append, escape_append, written]
  simp

/-! ## What is read back -/

/-- What a node that is no element stands for, its characters as they are. -/
def Node.ownText? : Node → Option Text
  | .characters t => some t
  | .reference name => (Node.resolve? name).map fun c => [c]
  | .element .. => none

/-- The text of nodes among which there is no element, its characters as they are. -/
def Node.decode? (nodes : List Node) : Option Text := (nodes.mapM Node.ownText?).map List.flatten

theorem Node.decode?_append {nodes others : List Node} {s t : Text}
    (front : Node.decode? nodes = some s) (back : Node.decode? others = some t) :
    Node.decode? (nodes ++ others) = some (s ++ t) := by
  obtain ⟨parts, read, rfl⟩ := Option.map_eq_some_iff.mp front
  obtain ⟨more, read_more, rfl⟩ := Option.map_eq_some_iff.mp back
  rw [Node.decode?, List.mapM_append, read, read_more]
  simp

/-- Nodes stand for a text: they do so exactly when their references are resolved, and as a part of
a document that is read they do so with every end of a line written in the one way. -/
structure Node.Tells (nodes : List Node) (t : Text) : Prop where
  decoded : Node.decode? nodes = some t
  read : Node.text? nodes = some (Node.unifyLineEnds t)
  unchanged : Node.text? nodes = some t ↔ '\r' ∉ t

theorem Node.tells_of_read {nodes : List Node} {t : Text} (decoded : Node.decode? nodes = some t)
    (read : Node.text? nodes = some (Node.unifyLineEnds t)) : Node.Tells nodes t := by
  refine ⟨decoded, read, ?_⟩
  rw [read, Option.some.injEq]
  exact Node.unifyLineEnds_eq_self_iff

theorem Run.tells (run : Run) : Node.Tells run.nodes run.val := by
  refine Node.tells_of_read ?_ run.text?_nodes
  rw [Run.nodes]
  split
  next none => rw [none]; rfl
  next => simp [Node.decode?, Node.ownText?]

/-- A reference divides a text into what stands before it and what follows. -/
theorem Node.Tells.reference {nodes others : List Node} {s t : Text} (front : Node.Tells nodes s)
    (entity : Entity) (back : Node.Tells others t) :
    Node.Tells (nodes ++ .reference entity.name :: others) (s ++ entity.char :: t) := by
  apply Node.tells_of_read
  · have behind : Node.decode? (.reference entity.name :: others) = some (entity.char :: t) := by
      obtain ⟨parts, read, rfl⟩ := Option.map_eq_some_iff.mp back.decoded
      simp [Node.decode?, Node.ownText?, entity.resolve?_name, read]
    exact Node.decode?_append front.decoded behind
  · have behind : Node.text? (.reference entity.name :: others)
        = some (entity.char :: Node.unifyLineEnds t) := by
      rw [Node.text?, entity.resolve?_name, back.read]
    have notFeed : entity.char ≠ '\n' := by cases entity <;> decide
    have notReturn : entity.char ≠ '\r' := by cases entity <;> decide
    rw [Node.unifyLineEnds_append_cons notFeed notReturn]
    exact Node.text?_append front.read behind

def Run.concat (run : Run) (c : Char) (plain : isPlain c = true) : Run :=
  ⟨run.val ++ [c], by rw [List.all_append, run.property]; simp [plain]⟩

theorem Run.areLegal_nodes (run : Run) (clear : '>' ∉ run.val) :
    Node.areLegal run.nodes = true := by
  rw [Run.nodes]
  split
  next => rfl
  next =>
    have unmarked : (Text.cutAt? "]]>" run.val).isNone = true := by
      cases cut : Text.cutAt? "]]>" run.val with
      | none => rfl
      | some parts =>
        rw [Text.cutAt?_eq_some cut] at clear
        exact absurd (by simp) clear
    rw [Node.areLegal, Node.isLegal, unmarked]
    rfl

theorem Entity.isLegal_reference (entity : Entity) :
    (Node.reference entity.name).isLegal = true := by
  rw [Node.isLegal, entity.resolve?_name]
  cases entity <;> decide

namespace Content

/-- What is written for a text behind characters that are plain. -/
def ofTextAfter (before : Run) : Text → Content
  | [] => .done before
  | c :: rest =>
    match found : Entity.ofChar? c with
    | some entity =>
      .item before (.reference entity.name entity.clear) (ofTextAfter .none rest)
    | none => ofTextAfter (before.concat c (isPlain_of_isBare (isBare_of_none found))) rest

def ofText (t : Text) : Content := ofTextAfter .none t

theorem text_ofTextAfter (before : Run) (t : Text) :
    (ofTextAfter before t).text = before.val ++ escape t := by
  induction t generalizing before with
  | nil => exact (List.append_nil before.val).symm
  | cons c rest ih =>
    rw [ofTextAfter, escape_cons]
    split
    next entity found =>
      rw [← Entity.char_eq_of_ofChar? found, escapeChar_char, text, ih]
      rfl
    next found =>
      rw [ih, escapeChar_of_isBare (isBare_of_none found), Run.concat, List.append_assoc]

/-- A text is written with the five characters escaped. -/
theorem text_ofText (t : Text) : (ofText t).text = escape t := text_ofTextAfter _ t

theorem tells_ofTextAfter (before : Run) (t : Text) :
    Node.Tells (ofTextAfter before t).nodes (before.val ++ t) := by
  induction t generalizing before with
  | nil =>
    rw [List.append_nil]
    exact before.tells
  | cons c rest ih =>
    rw [ofTextAfter]
    split
    next entity found =>
      rw [← Entity.char_eq_of_ofChar? found]
      exact before.tells.reference entity (ih .none)
    next found =>
      have whole := ih (before.concat c (isPlain_of_isBare (isBare_of_none found)))
      rwa [Run.concat, List.append_assoc] at whole

/-- What was written for a text is read as that text. -/
theorem tells_ofText (t : Text) : Node.Tells (ofText t).nodes t := tells_ofTextAfter _ t

/-- The characters that stand for themselves in what is written have no end of a tag among them. -/
theorem areLegal_ofTextAfter {before : Run} (clear : '>' ∉ before.val) (t : Text) :
    Node.areLegal (ofTextAfter before t).nodes = true := by
  induction t generalizing before with
  | nil => exact before.areLegal_nodes clear
  | cons c rest ih =>
    rw [ofTextAfter]
    split
    next entity found =>
      have behind : Node.areLegal (ofTextAfter .none rest).nodes = true := ih (by simp)
      rw [nodes, Node.areLegal_append, before.areLegal_nodes clear]
      simp only [Item.nodes, List.singleton_append, Node.areLegal, entity.isLegal_reference, behind]
      rfl
    next found =>
      refine ih fun member => ?_
      rcases List.mem_append.mp member with inside | last
      · exact clear inside
      · exact (isBare_of_none found).2.2.1 (List.mem_singleton.mp last).symm

theorem areLegal_ofText (t : Text) : Node.areLegal (ofText t).nodes = true :=
  areLegal_ofTextAfter (by simp) t

/-- A content is read as a text if it is written like that text. -/
theorem tells_of_text_eq {content : Content} {t : Text} (written : content.text = escape t) :
    Node.Tells content.nodes t := by
  rw [← text_ofText] at written
  rw [nodes_eq_of_text_eq written]
  exact tells_ofText t

/-! ## Elements with a text each -/

theorem named_append (name : Name) (t : Text) :
    (Tag.named name).opening ++ (t ++ (Tag.named name).closing) = Error.element name.val t := by
  simp [Error.element, Tag.opening, Tag.closing, Tag.named, Tag.attributesText]

/-- Elements with a text each. -/
def ofTexts : List (Name × Text) → Content
  | [] => nothing
  | (name, t) :: rest => .element .none (.named name) (.ofText t) (ofTexts rest)

theorem text_ofTexts (texts : List (Name × Text)) :
    (ofTexts texts).text = texts.flatMap fun (name, t) => Error.element name.val (escape t) := by
  induction texts with
  | nil => rfl
  | cons field rest ih =>
    obtain ⟨name, t⟩ := field
    simp only [ofTexts, text, ih, text_ofText, List.flatMap_cons, ← named_append,
      List.append_assoc, Run.val_none, List.nil_append]

theorem nodes_ofTexts (texts : List (Name × Text)) :
    (ofTexts texts).nodes
      = texts.map fun (name, t) => .element name.val [] (ofText t).nodes := by
  induction texts with
  | nil => rfl
  | cons field rest ih =>
    rw [ofTexts, nodes, ih]
    rfl

theorem elements_ofTexts (texts : List (Name × Text)) :
    (ofTexts texts).elements = texts.map fun (name, t) => (.named name, ofText t) := by
  induction texts with
  | nil => rfl
  | cons field rest ih =>
    rw [ofTexts, elements, ih]
    rfl

theorem isSpaced_ofTexts (texts : List (Name × Text)) : (ofTexts texts).isSpaced = true := by
  induction texts with
  | nil => rfl
  | cons field rest ih =>
    rw [ofTexts, isSpaced, ih]
    rfl

theorem areLegal_ofTexts (texts : List (Name × Text)) :
    Node.areLegal (ofTexts texts).nodes = true := by
  induction texts with
  | nil => rfl
  | cons field rest ih =>
    obtain ⟨name, t⟩ := field
    have plain : Node.soundAttributes [] = true := by decide
    rw [nodes_ofTexts] at ih ⊢
    simp only [List.map_cons, Node.areLegal, Node.isLegal, plain, areLegal_ofText, ih,
      Bool.true_and]

end Content
end UploadInbox.Xml
