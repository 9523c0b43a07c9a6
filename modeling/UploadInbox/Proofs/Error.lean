import UploadInbox.Proofs.Xml.Escape

/-!
# Error documents

Nothing in the detail of an error, in a resource or in the id of a request adds to the document that
reports the error: its element holds the code, the message, the resource and the id, and nothing
else. Each comes back as it is if it has no carriage return, and what is escaped already is escaped
once more. But a character that may not stand in any document is written like all others, and then
the document is none.
-/
namespace UploadInbox.Error

open Xml (Content Node Entity)

def declaration : Xml.Item :=
  .instruction "xml version=\"1.0\" encoding=\"UTF-8\""
    (fun inside => absurd (inside.subset (List.mem_cons_self : '?' ∈ ['?', '>'])) (by decide))
    (by decide)

theorem declaration_text :
    declaration.text ++ ['\n'] = "<?xml version=\"1.0\" encoding=\"UTF-8\"?>\n" := rfl

def fields (e : Error) (resource requestId : Text) : List (Xml.Name × Text) := [
  (⟨"Code", by decide⟩, e.code), (⟨"Message", by decide⟩, e.message),
  (⟨"Resource", by decide⟩, resource), (⟨"RequestId", by decide⟩, requestId)]

def content (e : Error) (resource requestId : Text) : Content :=
  .item .none declaration
    (.element .lineEnd (.named ⟨"Error", by decide⟩)
      (.ofTexts (e.fields resource requestId)) .nothing)

theorem escape_code (e : Error) : Xml.escape e.code = e.code := by
  rw [code]
  split
  next => decide
  next =>
    split
    next => decide
    next => decide

theorem text_fields (e : Error) (resource requestId : Text) :
    (Content.ofTexts (e.fields resource requestId)).text
      = element "Code" e.code ++ element "Message" (Xml.escape e.message) ++
        element "Resource" (Xml.escape resource) ++ element "RequestId" (Xml.escape requestId) := by
  rw [Content.text_ofTexts]
  simp [fields, escape_code]

theorem text_content (e : Error) (resource requestId : Text) :
    (e.content resource requestId).text = e.document resource requestId := by
  calc
    (e.content resource requestId).text
        = declaration.text ++ ['\n'] ++ element "Error"
            (Content.ofTexts (e.fields resource requestId)).text := by
      rw [← Content.named_append ⟨"Error", by decide⟩]
      simp [content, Content.text, Content.nothing]
    _ = e.document resource requestId := by
      rw [declaration_text, text_fields]
      rfl

/-- Only a text from outside can bring a character into the document that may not stand there. -/
theorem all_isChar_document (e : Error) (resource requestId : Text) :
    (e.document resource requestId).all Xml.isChar =
      (e.message ++ resource ++ requestId).all Xml.isChar := by
  have code : e.code.all Xml.isChar = true := by
    rw [Error.code]
    split
    next => decide
    next =>
      split
      next => decide
      next => decide
  have around (name content : Text) (allowed : name.all Xml.isChar = true) :
      (element name content).all Xml.isChar = content.all Xml.isChar := by
    have sign : Xml.isChar '<' = true ∧ Xml.isChar '>' = true ∧ Xml.isChar '/' = true := by decide
    simp [element, List.all_append, allowed, sign]
  have front : (declaration.text ++ ['\n']).all Xml.isChar = true := by decide
  have written : e.document resource requestId = declaration.text ++ ['\n'] ++
      element "Error" (element "Code" e.code ++ element "Message" (Xml.escape e.message) ++
        element "Resource" (Xml.escape resource) ++
        element "RequestId" (Xml.escape requestId)) := rfl
  rw [written, List.all_append, front, Bool.true_and, around "Error" _ (by decide)]
  simp only [List.all_append, around "Code" _ (by decide), around "Message" _ (by decide),
    around "Resource" _ (by decide), around "RequestId" _ (by decide), code, Bool.true_and,
    Xml.all_isChar_escape]

theorem areLegal_content (e : Error) (resource requestId : Text) :
    Node.areLegal (e.content resource requestId).nodes = true := by
  have lineEnd : Node.areLegal Xml.Run.lineEnd.nodes = true := by decide
  have tag : Node.soundAttributes [] = true := by decide
  calc
    Node.areLegal (e.content resource requestId).nodes
        = Node.areLegal (Xml.Run.lineEnd.nodes ++
            [.element "Error" [] (Content.ofTexts (e.fields resource requestId)).nodes]) := rfl
    _ = true := by
      rw [Node.areLegal_append, lineEnd]
      simp only [Node.areLegal, Node.isLegal, tag, Content.areLegal_ofTexts, Bool.and_true]

/-- A reader that lets every character pass finds the four texts and nothing else. -/
theorem root?_document (e : Error) (resource requestId : Text) :
    Node.root? (e.document resource requestId) =
      some (.element "Error" []
        ((e.fields resource requestId).map fun (name, t) =>
          .element name.val [] (Content.ofText t).nodes)) := by
  have spaced : (e.content resource requestId).isSpaced = true := rfl
  have read := Content.root?_text spaced rfl
  rw [text_content, Content.part, Content.nodes_ofTexts] at read
  exact read

theorem document?_eq (e : Error) (resource requestId : Text) :
    Node.document? (e.document resource requestId) =
      if (e.message ++ resource ++ requestId).all Xml.isChar then
        Node.root? (e.document resource requestId)
      else none := by
  have spaced : (e.content resource requestId).isSpaced = true := rfl
  have read := Content.document?_text spaced (e.areLegal_content resource requestId) rfl
  rw [text_content, all_isChar_document] at read
  exact read

/-- Whatever characters stand in the document, it holds the four texts and nothing else; it conforms
as long as every character from outside may stand in a document. What is escaped has none of the
five characters but the ampersands of references. -/
theorem document?_document (e : Error) (resource requestId : Text) :
    (∃ code message place request : List Node,
      Node.root? (e.document resource requestId) =
        some (.element "Error" [] [
          .element "Code" [] code, .element "Message" [] message,
          .element "Resource" [] place, .element "RequestId" [] request]) ∧
      Node.Tells code e.code ∧ Node.Tells message e.message ∧
      Node.Tells place resource ∧ Node.Tells request requestId) ∧
    (Node.document? (e.document resource requestId) =
      if (e.message ++ resource ++ requestId).all Xml.isChar then
        Node.root? (e.document resource requestId)
      else none) ∧
    (∀ t : Text, Xml.escape t =
      Text.exchange '\'' "&apos;" (Text.exchange '"' "&quot;" (Text.exchange '>' "&gt;"
        (Text.exchange '<' "&lt;" (Text.exchange '&' "&amp;" t))))) ∧
    (∀ t : Text, '<' ∉ Xml.escape t ∧ '>' ∉ Xml.escape t ∧ '"' ∉ Xml.escape t ∧
      '\'' ∉ Xml.escape t) ∧
    (∀ t before after : Text, Xml.escape t = before ++ '&' :: after →
      ∃ (front back : Text) (entity : Entity), t = front ++ entity.char :: back ∧
        before = Xml.escape front ∧ after = entity.name ++ ';' :: Xml.escape back) ∧
    ∀ (before : Text) (entity : Entity) (after : Text),
      Xml.escape (before ++ (entity.text ++ after))
        = Xml.escape before ++ (Entity.amp.text ++ (entity.name ++ ';' :: Xml.escape after)) := by
  refine ⟨⟨_, _, _, _, e.root?_document resource requestId, Content.tells_ofText _,
    Content.tells_ofText _, Content.tells_ofText _, Content.tells_ofText _⟩,
    e.document?_eq resource requestId, Xml.escape_eq_exchange, fun t => ?_,
    fun _ _ _ => Xml.ampersand_escape, Xml.escape_entity⟩
  exact ⟨Xml.not_mem_escape .lt (by decide) t, Xml.not_mem_escape .gt (by decide) t,
    Xml.not_mem_escape .quot (by decide) t, Xml.not_mem_escape .apos (by decide) t⟩

/-- Markup and a reference in a detail are part of the message. -/
theorem document?_document_markup :
    (∃ code message place request : List Node,
      Node.document? ((policyDenied "</Message>&lt;").document "/a\"" "'") =
        some (.element "Error" [] [
          .element "Code" [] code, .element "Message" [] message,
          .element "Resource" [] place, .element "RequestId" [] request]) ∧
      Node.text? message = some ("Operation not permitted: </Message>&lt;" : Text)) ∧
    Xml.escape "a<b" = "a" ++ '&' :: "lt;b" ∧
    ∃ (front back : Text) (entity : Entity), ("a<b" : Text) = front ++ entity.char :: back ∧
      ("a" : Text) = Xml.escape front ∧
      ("lt;b" : Text) = entity.name ++ ';' :: Xml.escape back := by
  obtain ⟨⟨code, message, place, request, read, -, told, -, -⟩, conforms, -, -, begins, -⟩ :=
    document?_document (policyDenied "</Message>&lt;") "/a\"" "'"
  rw [if_pos (by decide), read] at conforms
  have written : Xml.escape "a<b" = "a" ++ '&' :: "lt;b" := by decide
  exact ⟨⟨code, message, place, request, conforms, told.unchanged.mpr (by decide)⟩, written,
    begins _ _ _ written⟩

/-- The refusal of a caller whose name and that of the namespace differ. -/
def foreignNamespace (user : Text) : Error :=
  authenticationFailed ("token subject 'bob' does not own namespace '" ++ user ++ "'")

/-- A control character in the name of a namespace leaves no conforming document, and a carriage
return there is read as the end of a line. -/
theorem document?_control :
    Node.document? ((foreignNamespace ['a', '\x01']).document "/a%01/x" "req-1") = none ∧
    ∃ content message : List Node,
      Node.document? ((foreignNamespace ['a', '\r']).document "/a%0D/x" "req-1")
        = some (.element "Error" [] content) ∧
      .element "Message" [] message ∈ content ∧
      Node.text? message = some
        ("Authentication failed: token subject 'bob' does not own namespace 'a\n'" : Text) := by
  have forbidden :
      ((foreignNamespace ['a', '\x01']).message ++ "/a%01/x" ++ "req-1").all Xml.isChar ≠ true := by
    decide
  have allowed :
      ((foreignNamespace ['a', '\r']).message ++ "/a%0D/x" ++ "req-1").all Xml.isChar = true := by
    decide
  have unified : Node.unifyLineEnds (foreignNamespace ['a', '\r']).message =
      "Authentication failed: token subject 'bob' does not own namespace 'a\n'" := by decide
  have told := (Content.tells_ofText (foreignNamespace ['a', '\r']).message).read
  rw [unified] at told
  refine ⟨?_, _, _, by rw [document?_eq, if_pos allowed, root?_document], ?_, told⟩
  · rw [document?_eq, if_neg forbidden]
  · simp [fields]

end UploadInbox.Error
