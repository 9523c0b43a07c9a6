import Mathlib.Data.List.Forall2
import UploadInbox.Listing
import UploadInbox.Proofs.Text.Decimal
import UploadInbox.Proofs.Xml.Escape

/-!
# Listings read back

A listing that is written for objects is read as these objects, in their order, whatever else stands
in the document: elements of other names before and after the objects and inside each of them,
attributes, comments and blanks. Two things are lost: how lines end in a key or a tag, and quotes at
the ends of a tag.
-/
namespace UploadInbox

open Xml (Content Node Tag)

/-! ## Objects -/

namespace ListedObject

def asRead (object : ListedObject) : ListedObject where
  key := Node.unifyLineEnds object.key
  size := object.size
  tag := Listing.unquote (Node.unifyLineEnds object.tag)

/-- Whether nothing of an object is lost in a listing. -/
structure Kept (object : ListedObject) : Prop where
  key : '\r' ∉ object.key
  tag : '\r' ∉ object.tag
  front : object.tag.head? ≠ some '"'
  back : object.tag.getLast? ≠ some '"'

instance (object : ListedObject) : Decidable object.Kept :=
  decidable_of_iff ('\r' ∉ object.key ∧ '\r' ∉ object.tag ∧ object.tag.head? ≠ some '"' ∧
      object.tag.getLast? ≠ some '"')
    ⟨fun ⟨key, tag, front, back⟩ => ⟨key, tag, front, back⟩,
      fun ⟨key, tag, front, back⟩ => ⟨key, tag, front, back⟩⟩

theorem unquote_eq_self_iff {tag : Text} :
    Listing.unquote tag = tag ↔ tag.head? ≠ some '"' ∧ tag.getLast? ≠ some '"' := by
  have plain (last : Option Char) :
      (∀ c, last = some c → decide (c = '"') = false) ↔ last ≠ some '"' := by
    cases last <;> simp
  rw [Listing.unquote, Text.trim_eq_self_iff, plain, plain]

theorem asRead_eq_self_iff {object : ListedObject} : object.asRead = object ↔ object.Kept := by
  have whole : object.asRead = object ↔
      Node.unifyLineEnds object.key = object.key ∧
        Listing.unquote (Node.unifyLineEnds object.tag) = object.tag := by
    obtain ⟨key, size, tag⟩ := object
    simp [asRead]
  rw [whole, Node.unifyLineEnds_eq_self_iff]
  constructor
  · rintro ⟨key, tag⟩
    have clear : '\r' ∉ object.tag := by
      rw [← tag]
      exact fun member =>
        Node.return_not_mem_unifyLineEnds object.tag (Text.mem_of_mem_trim member)
    rw [Node.unifyLineEnds_eq_self_iff.mpr clear] at tag
    have ends := unquote_eq_self_iff.mp tag
    exact ⟨key, clear, ends.1, ends.2⟩
  · rintro ⟨key, tag, front, back⟩
    rw [Node.unifyLineEnds_eq_self_iff.mpr tag]
    exact ⟨key, unquote_eq_self_iff.mpr ⟨front, back⟩⟩

theorem map_asRead_eq_self_iff {objects : List ListedObject} :
    objects.map asRead = objects ↔ ∀ object ∈ objects, object.Kept := by
  have kept : objects.map asRead = objects ↔ ∀ object ∈ objects, object.asRead = id object := by
    rw [← List.map_inj_left, List.map_id]
  rw [kept]
  exact forall₂_congr fun object _ => asRead_eq_self_iff

end ListedObject

namespace Listing

/-! ## What a listing is written as -/

/-- What the elements of a name hold. -/
def holding (name : Text) (elements : List (Tag × Content)) : List Content :=
  elements.filterMap fun element =>
    if Node.localName element.1.name.val = name then some element.2 else none

/-- Whether among elements there is one of a name, and what is written in it is a text. -/
def Holds (name : Text) (elements : List (Tag × Content)) (t : Text) : Prop :=
  ∃ content, holding name elements = [content] ∧ content.text = t

/-- Whether an element is written for an object: among its elements, which are in any order, there
is one each for the key, the size and the quoted tag. -/
structure WritesObject (element : Tag × Content) (object : ListedObject) : Prop where
  spaced : element.2.isSpaced = true
  key : Holds "Key" element.2.elements (Xml.escape object.key)
  size : Holds "Size" element.2.elements (Decimal.ofNat object.size.toNat)
  tag : Holds "ETag" element.2.elements (Xml.escape ('"' :: (object.tag ++ ['"'])))

/-- Whether an element may stand before or behind those of the objects. -/
def IsOther (element : Tag × Content) : Prop :=
  Node.localName element.1.name.val ≠ "Contents"

instance (element : Tag × Content) : Decidable (IsOther element) :=
  inferInstanceAs (Decidable (_ ≠ _))

/-- Elements of which one run is written for the objects. -/
inductive WritesRun : List (Tag × Content) → List ListedObject → Prop
  | intro {before run after : List (Tag × Content)} {objects : List ListedObject} {name : Text}
      (others_before : ∀ element ∈ before, IsOther element)
      (others_after : ∀ element ∈ after, IsOther element)
      (named : Node.localName name = "Contents")
      (same : ∀ element ∈ run, element.1.name.val = name)
      (writes : List.Forall₂ WritesObject run objects) :
      WritesRun (before ++ (run ++ after)) objects

/-- Whether a document is written for the objects. -/
structure Writes (document : Content) (objects : List ListedObject) : Prop where
  spaced : document.isSpaced = true
  root : ∃ element, document.elements = [element] ∧ element.2.isSpaced = true ∧
    WritesRun element.2.elements objects

/-! ## Reading an object -/

theorem named_map (name : Text) (elements : List (Tag × Content)) :
    named name (elements.map Content.part) = (holding name elements).map Content.nodes := by
  induction elements with
  | nil => rfl
  | cons element elements ih =>
    rw [named, holding] at ih
    by_cases same : Node.localName element.1.name.val = name
    · simp [named, holding, Content.part, same, ih]
    · simp [named, holding, Content.part, same, ih]

/-- What is written for a text is read as that text, up to the ends of its lines. -/
theorem Holds.only?_eq {name : Text} {elements : List (Tag × Content)} {t : Text}
    (holds : Holds name elements (Xml.escape t)) :
    only? name (elements.map Content.part) = some (some (Node.unifyLineEnds t)) := by
  obtain ⟨content, one, written⟩ := holds
  rw [only?, named_map, one]
  exact congrArg (Option.map some) (Content.tells_of_text_eq written).read

theorem escape_digits (n : Nat) : Xml.escape (Decimal.ofNat n) = Decimal.ofNat n := by
  refine Xml.escape_of_forall fun c member => ?_
  have digit := Decimal.isDigit_of_mem_ofNat member
  exact ⟨ne_of_class digit (by decide), ne_of_class digit (by decide),
    ne_of_class digit (by decide), ne_of_class digit (by decide), ne_of_class digit (by decide)⟩

/-- Digits are written and read as they are. -/
theorem Holds.only?_digits {name : Text} {elements : List (Tag × Content)} {n : Nat}
    (holds : Holds name elements (Decimal.ofNat n)) :
    only? name (elements.map Content.part) = some (some (Decimal.ofNat n)) := by
  have oneLine := Node.unifyLineEnds_eq_self_iff.mpr
    (Decimal.not_mem_ofNat (by decide : '\r'.isDigit = false) n)
  rw [← escape_digits] at holds
  rw [holds.only?_eq, oneLine]

theorem size?_ofNat (size : UInt64) : size? (some (Decimal.ofNat size.toNat)) = some size := by
  rw [size?, Decimal.trim_ofNat, Decimal.readUInt64?_ofNat]

/-- The quotes that are written around a tag are trimmed from it. -/
theorem unquote_quoted (tag : Text) :
    unquote (Node.unifyLineEnds ('"' :: (tag ++ ['"']))) = unquote (Node.unifyLineEnds tag) := by
  have quote : ∀ c ∈ ['"'], decide (c = '"') = true := by simp
  have inside : Node.unifyLineEnds ('"' :: (tag ++ ['"']))
      = ['"'] ++ (Node.unifyLineEnds tag ++ ['"']) := by
    rw [Node.unifyLineEnds_cons (by decide), Node.unifyLineEnds_append_cons (by decide) (by decide)]
    rfl
  rw [inside]
  exact Text.trim_append quote quote _

theorem WritesObject.object?_eq {element : Tag × Content} {object : ListedObject}
    (writes : WritesObject element object) :
    object? element.1.attributesText element.2.nodes = some object.asRead := by
  simp only [object?, Content.parts?_nodes writes.spaced, writes.key.only?_eq,
    writes.size.only?_digits, writes.tag.only?_eq, size?_ofNat, Option.bind_eq_bind,
    Option.bind_some, element.1.soundAttributes, if_true, Option.getD_some, unquote_quoted]
  rfl

/-! ## Reading a run of objects -/

/-- Elements of one name are read as objects, up to an element of another name. -/
theorem run?_map {name : Text} (named : Node.localName name = "Contents")
    {run after : List (Tag × Content)} {objects : List ListedObject}
    (same : ∀ element ∈ run, element.1.name.val = name)
    (others : ∀ element ∈ after, IsOther element)
    (writes : List.Forall₂ WritesObject run objects) :
    run? name (run.map Content.part ++ after.map Content.part)
      = some (objects.map ListedObject.asRead, after.map Content.part) := by
  induction writes with
  | nil =>
    cases after with
    | nil => rfl
    | cons element after =>
      have other : element.1.name.val ≠ name := by
        rintro rfl
        exact others element List.mem_cons_self named
      exact if_neg other
  | @cons element object run objects written _ ih =>
    have here := same element List.mem_cons_self
    have behind := ih fun other member => same other (List.mem_cons_of_mem element member)
    simp only [List.map_cons, List.cons_append, Content.part, run?]
    rw [if_pos here, written.object?_eq, behind]

theorem isObject_of_mem_map {elements : List (Tag × Content)}
    (others : ∀ element ∈ elements, IsOther element) :
    ∀ part ∈ elements.map Content.part, isObject part = false := by
  intro part member
  obtain ⟨element, inside, rfl⟩ := List.mem_map.mp member
  exact decide_eq_false (others element inside)

/-- What stands before the objects is skipped. -/
theorem dropWhile_map {elements : List (Tag × Content)}
    (others : ∀ element ∈ elements, IsOther element) (rest : List Node.Part) :
    (elements.map Content.part ++ rest).dropWhile (!isObject ·) = rest.dropWhile (!isObject ·) :=
  List.dropWhile_append_of_pos fun part member => by
    rw [isObject_of_mem_map others part member]
    rfl

/-- Of all elements only the run of objects counts. -/
theorem WritesRun.objectsOf?_eq {elements : List (Tag × Content)} {objects : List ListedObject}
    (writes : WritesRun elements objects) :
    objectsOf? (elements.map Content.part) = some (objects.map ListedObject.asRead) := by
  cases writes with
  | @intro before run after _ name others_before others_after named same writes =>
    rw [objectsOf?, List.map_append, List.map_append, dropWhile_map others_before]
    cases writes with
    | nil =>
      have nothing := dropWhile_map others_after []
      rw [List.append_nil] at nothing
      rw [List.map_nil, List.nil_append, nothing]
      rfl
    | @cons element object run objects written more =>
      obtain rfl : element.1.name.val = name := same element List.mem_cons_self
      have read := run?_map named same others_after (.cons written more)
      have kept (rest : List Node.Part) : (Content.part element :: rest).dropWhile (!isObject ·)
          = Content.part element :: rest :=
        List.dropWhile_cons_of_neg (by rw [Content.part, isObject, named]; decide)
      have behind : (after.map Content.part).any isObject = false :=
        List.any_eq_false.mpr fun part member => by
          rw [isObject_of_mem_map others_after part member]
          decide
      rw [List.map_cons, List.cons_append] at read ⊢
      rw [kept]
      change (run? element.1.name.val _).bind _ = _
      rw [read, Option.bind_some]
      exact if_neg (by rw [behind]; decide)

/-- A document is read as the objects that it is written for. -/
theorem Writes.ofText?_eq {document : Content} {objects : List ListedObject}
    (writes : Writes document objects) :
    ofText? document.text = some (objects.map ListedObject.asRead) := by
  obtain ⟨element, only, spaced, run⟩ := writes.root
  rw [ofText?, Content.root?_text writes.spaced only, Content.part]
  simp only [element.1.soundAttributes, if_true, Content.parts?_nodes spaced, Option.bind_some,
    run.objectsOf?_eq]

/-! ## A listing of any objects -/

/-- What is written for an object and nothing else. -/
def entry (object : ListedObject) : Content :=
  .ofTexts [(⟨"Key", by decide⟩, object.key),
    (⟨"Size", by decide⟩, Decimal.ofNat object.size.toNat),
    (⟨"ETag", by decide⟩, '"' :: (object.tag ++ ['"']))]

def entryTag : Tag := .named ⟨"Contents", by decide⟩

def entries : List ListedObject → Content
  | [] => .nothing
  | object :: rest =>
    .element .none entryTag (entry object) (entries rest)

def written (objects : List ListedObject) : Content :=
  .element .none (.named ⟨"ListBucketResult", by decide⟩) (entries objects) .nothing

theorem text_entries (objects : List ListedObject) :
    (entries objects).text = objects.flatMap fun object =>
      Error.element "Contents" (Error.element "Key" (Xml.escape object.key) ++
        (Error.element "Size" (Decimal.ofNat object.size.toNat) ++
          Error.element "ETag" (Xml.escape ('"' :: (object.tag ++ ['"']))))) := by
  induction objects with
  | nil => rfl
  | cons object rest ih =>
    have inner : (entry object).text = Error.element "Key" (Xml.escape object.key) ++
        (Error.element "Size" (Decimal.ofNat object.size.toNat) ++
          Error.element "ETag" (Xml.escape ('"' :: (object.tag ++ ['"'])))) := by
      rw [entry, Content.text_ofTexts]
      simp only [List.flatMap_cons, List.flatMap_nil, List.append_nil, escape_digits]
    rw [List.flatMap_cons, ← ih, ← inner]
    simp only [← Content.named_append ⟨"Contents", by decide⟩, entries, Content.text, entryTag,
      Xml.Run.val_none, List.nil_append, List.append_assoc]

/-- The document is the plain listing of the objects. -/
theorem text_written (objects : List ListedObject) :
    (written objects).text = Error.element "ListBucketResult" (entries objects).text := by
  simp only [← Content.named_append ⟨"ListBucketResult", by decide⟩, written, Content.text,
    Content.nothing, Xml.Run.val_none, List.nil_append, List.append_nil]

theorem writesObject_entry (tag : Tag) (object : ListedObject) :
    WritesObject (tag, entry object) object where
  spaced := Content.isSpaced_ofTexts _
  key := ⟨_, by rw [entry, Content.elements_ofTexts]; rfl, Content.text_ofText _⟩
  size := ⟨_, by rw [entry, Content.elements_ofTexts]; rfl, by
    rw [Content.text_ofText, escape_digits]⟩
  tag := ⟨_, by rw [entry, Content.elements_ofTexts]; rfl, Content.text_ofText _⟩

theorem isSpaced_entries (objects : List ListedObject) : (entries objects).isSpaced = true := by
  induction objects with
  | nil => rfl
  | cons object rest ih =>
    rw [entries, Content.isSpaced, ih]
    rfl

theorem elements_entries (objects : List ListedObject) :
    (entries objects).elements = objects.map fun object => (entryTag, entry object) := by
  induction objects with
  | nil => rfl
  | cons object rest ih =>
    rw [entries, Content.elements, ih]
    rfl

/-- Any objects have a document that is written for them. -/
theorem writes_written (objects : List ListedObject) : Writes (written objects) objects where
  spaced := rfl
  root := by
    refine ⟨_, rfl, isSpaced_entries objects, ?_⟩
    have run : WritesRun ([] ++ ((entries objects).elements ++ [])) objects := by
      refine .intro nofun nofun (by decide : Node.localName "Contents" = "Contents") ?_ ?_
      · intro element member
        rw [elements_entries] at member
        obtain ⟨object, -, rfl⟩ := List.mem_map.mp member
        rfl
      · rw [elements_entries, List.forall₂_map_left_iff]
        exact List.forall₂_same.mpr fun object _ => writesObject_entry _ object
    rwa [List.nil_append, List.append_nil] at run

/-! ## What a listing is read as -/

/-- A document that is written for objects is read as these objects, and this exactly if nothing of
them is lost in a listing. -/
theorem ofText_document (document : Content) (objects : List ListedObject)
    (writes : Writes document objects) :
    ofText document.text = .ok (objects.map ListedObject.asRead) ∧
    (ofText document.text = .ok objects ↔ ∀ object ∈ objects, object.Kept) := by
  have read : ofText document.text = .ok (objects.map ListedObject.asRead) := by
    rw [ofText, writes.ofText?_eq]
  refine ⟨read, ?_⟩
  rw [read, Except.ok.injEq]
  exact ListedObject.map_asRead_eq_self_iff

/-- An object with the largest size, no tag, and blanks and markup in its key. -/
def largestSize : ListedObject := ⟨" a<b>&amp;'\" ", 18446744073709551615, []⟩

/-- The element of that object, with its parts from the last one to the first and another one. -/
def largestSizeEntry : Content :=
  .item ⟨['\n', ' '], by decide⟩ (.comment " none " (by decide)) (.ofTexts [
    (⟨"ETag", by decide⟩, "\"\""), (⟨"StorageClass", by decide⟩, "STANDARD"),
    (⟨"Size", by decide⟩, "18446744073709551615"), (⟨"Key", by decide⟩, largestSize.key)])

/-- The tag of a listing with an attribute and with blanks in it. -/
def listingTag : Tag where
  name := ⟨"ListBucketResult", by decide⟩
  attributes := [⟨⟨[' '], by decide⟩, ⟨"xmlns", by decide⟩, .none, ⟨[' '], by decide⟩, '\'',
    "a>\"b", by decide, .inr rfl, by decide⟩]
  gap := ⟨['\n'], by decide⟩
  closingGap := ⟨[' '], by decide⟩
  distinct := by decide

/-- A listing of that object and of another one among elements of other names. -/
def listingAmongOthers : Content :=
  .item .none (.comment "-" (by decide)) (.element .lineEnd listingTag
    (.element .none (.named ⟨"Name", by decide⟩) (.ofText "in&box")
      (.element ⟨['\t'], by decide⟩ entryTag largestSizeEntry
        (.element .none entryTag (entry ⟨"k", 0, "t"⟩)
          (.empty .none (.named ⟨"IsTruncated", by decide⟩) .nothing))))
    .nothing)

theorem ofText_listingAmongOthers :
    Writes listingAmongOthers [largestSize, ⟨"k", 0, "t"⟩] ∧
    (∀ object ∈ [largestSize, ⟨"k", 0, "t"⟩], object.Kept) ∧
    ofText listingAmongOthers.text = .ok [largestSize, ⟨"k", 0, "t"⟩] := by
  have first : WritesObject (entryTag, largestSizeEntry) largestSize :=
    ⟨rfl, ⟨_, rfl, Content.text_ofText _⟩, ⟨_, rfl, rfl⟩, ⟨_, rfl, rfl⟩⟩
  have run : WritesRun ([(.named ⟨"Name", by decide⟩, .ofText "in&box")] ++
      ([(entryTag, largestSizeEntry), (entryTag, entry ⟨"k", 0, "t"⟩)] ++
        [(.named ⟨"IsTruncated", by decide⟩, .nothing)])) [largestSize, ⟨"k", 0, "t"⟩] :=
    .intro (by decide) (by decide) (by decide : Node.localName "Contents" = "Contents") (by decide)
      (.cons first (.cons (writesObject_entry entryTag ⟨"k", 0, "t"⟩) .nil))
  have writes : Writes listingAmongOthers [largestSize, ⟨"k", 0, "t"⟩] := ⟨rfl, _, rfl, rfl, run⟩
  have kept : ∀ object ∈ [largestSize, ⟨"k", 0, "t"⟩], object.Kept := by decide
  exact ⟨writes, kept, (ofText_document listingAmongOthers _ writes).2.mpr kept⟩

/-- An object whose tag has a line in it that ends in another way. -/
def returnInTag : ListedObject := ⟨"k", 1, "a\rb"⟩

/-- The listing of that object is read as one of another object. -/
theorem ofText_returnInTag :
    Writes (written [returnInTag]) [returnInTag] ∧
    returnInTag.tag.head? ≠ some '"' ∧ returnInTag.tag.getLast? ≠ some '"' ∧
    (written [returnInTag]).text = "<ListBucketResult><Contents><Key>k</Key><Size>1</Size>" ++
      "<ETag>&quot;a\rb&quot;</ETag></Contents></ListBucketResult>" ∧
    ofText (written [returnInTag]).text = .ok [⟨"k", 1, "a\nb"⟩] ∧
    ofText (written [returnInTag]).text ≠ .ok [returnInTag] := by
  have writes : Writes (written [returnInTag]) [returnInTag] := writes_written [returnInTag]
  have unified : [returnInTag].map ListedObject.asRead = [⟨"k", 1, "a\nb"⟩] := by decide
  have read : ofText (written [returnInTag]).text = .ok [⟨"k", 1, "a\nb"⟩] := by
    rw [ofText, writes.ofText?_eq, unified]
  have other : ([⟨"k", 1, "a\nb"⟩] : List ListedObject) ≠ [returnInTag] := by decide
  have text : (written [returnInTag]).text =
      "<ListBucketResult><Contents><Key>k</Key><Size>1</Size>" ++
        "<ETag>&quot;a\rb&quot;</ETag></Contents></ListBucketResult>" := by
    have size : Decimal.ofNat 1 = ['1'] := rfl
    rw [text_written, text_entries]
    simp [Error.element, Xml.escape, Xml.escapeChar, returnInTag, size]
  refine ⟨writes, by decide, by decide, text, read, ?_⟩
  rw [read]
  exact fun same => other (Except.ok.inj same)

end Listing
end UploadInbox
