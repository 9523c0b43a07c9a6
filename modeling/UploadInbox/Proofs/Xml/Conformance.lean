import UploadInbox.Proofs.Xml.Document

/-!
# Conforming documents

A reader that keeps to the letter refuses a document for any character that may not stand in one,
written or referred to, and for whatever stands beside its one element. The reader of listings does
neither: it takes characters as they come and stops behind the first element. In the names of
elements and of attributes the one is no stricter than the other.
-/
namespace UploadInbox.Xml

/-- The characters of XML 1.0: of those below the blank only three, and all others but the last two
of the first plane. No halves of characters have to be left out here. -/
def isChar (c : Char) : Bool :=
  c = '\t' || c = '\n' || c = '\r' || (0x20 ≤ c.toNat && c.toNat ≠ 0xFFFE && c.toNat ≠ 0xFFFF)

namespace Node

mutual
/-- Whether a node may stand in a document: what is referred to is a character of XML, and the mark
that ends characters without a meaning stands nowhere else. -/
def isLegal : Node → Bool
  | .characters t => (Text.cutAt? "]]>" t).isNone
  | .reference name => (resolve? name).any isChar
  | .element _ attributes content => soundAttributes attributes && areLegal content

def areLegal : List Node → Bool
  | [] => true
  | node :: rest => node.isLegal && areLegal rest
end

theorem areLegal_append (nodes others : List Node) :
    areLegal (nodes ++ others) = (areLegal nodes && areLegal others) := by
  induction nodes with
  | nil => rfl
  | cons node nodes ih => rw [List.cons_append, areLegal, ih, areLegal, Bool.and_assoc]

/-- The element of a conforming document. -/
def document? (t : Text) : Option Part :=
  if t.all isChar then
    -- What is at the top is read like the content of an element that ends with the text.
    match content? ((Xml.tokens t).length + 1) (Xml.tokens t ++ [.closing]) with
    | some (nodes, []) =>
      if areLegal nodes then
        match parts? nodes with
        | some [.element name attributes content] => some (.element name attributes content)
        | _ => none
      else none
    | _ => none
  else none

end Node

/-- Of a document as it is written a conforming reader reads the same, unless a character in it is
none of XML. -/
theorem Content.document?_text {document : Content} (spaced : document.isSpaced = true)
    (legal : Node.areLegal document.nodes = true) {element : Tag × Content}
    (only : document.elements = [element]) :
    Node.document? document.text =
      if document.text.all isChar then Node.root? document.text else none := by
  have whole := content?_tokens (Nat.lt_succ_self (Node.tokens document.nodes).length) []
  have parts := parts?_nodes spaced
  rw [only] at parts
  rw [root?_text spaced only, Node.document?, tokens_text spaced, whole]
  simp only [legal, parts, List.map_cons, List.map_nil, part, if_true]

end UploadInbox.Xml
