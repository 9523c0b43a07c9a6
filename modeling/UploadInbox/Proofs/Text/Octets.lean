import UploadInbox.Proofs.Query

/-!
# Text that is read octet by octet

A reader of octets finds the separators of a text where the text has them, since an octet below 128
is a character by itself: splitting, cutting and exchanging characters below 128 is the same before
and after a text is written as octets.
-/
namespace UploadInbox

namespace Utf8

def octet (mark : Char) : UInt8 := UInt8.ofNat mark.toNat

theorem encode_mark {mark : Char} (ascii : mark.toNat < 128) : encode [mark] = [octet mark] := by
  rw [encode_cons, utf8EncodeChar_ascii ascii]
  rfl

theorem octet_not_mem {mark : Char} (ascii : mark.toNat < 128) {t : Text} (absent : mark ∉ t) :
    octet mark ∉ encode t := by
  have number : (octet mark).toNat = mark.toNat := toNat_octet (by omega)
  intro member
  have inside := mem_of_mem_encode member (by omega)
  rw [number, Char.ofNat_toNat] at inside
  exact absent inside

theorem encode_intercalate {mark : Char} (ascii : mark.toNat < 128) (parts : List Text) :
    encode (List.intercalate [mark] parts) =
      List.intercalate [octet mark] (parts.map encode) := by
  induction parts with
  | nil => rfl
  | cons part parts ih =>
    cases parts with
    | nil => simp
    | cons next others =>
      rw [List.intercalate_cons_cons, encode_append, encode_append, ih, encode_mark ascii]
      simp only [List.map_cons, List.intercalate_cons_cons]

/-- Octets are split where their text is. -/
theorem splitOn_encode {mark : Char} (ascii : mark.toNat < 128) (t : Text) :
    (encode t).splitOn (octet mark) = (Text.fields mark t).map encode := by
  have whole : t = List.intercalate [mark] (Text.fields mark t) := by
    rw [← Text.join_eq_intercalate, Text.join_fields]
  have octets : encode t = [octet mark].intercalate ((Text.fields mark t).map encode) := by
    rw [← encode_intercalate ascii, ← whole]
  rw [octets]
  refine List.splitOn_intercalate (octet mark) ?_ ?_
  · intro bytes member
    obtain ⟨part, inside, rfl⟩ := List.mem_map.mp member
    exact octet_not_mem ascii (Text.not_mem_of_mem_fields mark t part inside)
  · simpa using Text.fields_ne_nil mark t

theorem ne_octet_of_mem {mark : Char} (ascii : mark.toNat < 128) {t : Text} (absent : mark ∉ t) :
    ∀ b ∈ encode t, decide (b ≠ octet mark) = true := by
  intro b member
  refine decide_eq_true ?_
  rintro rfl
  exact octet_not_mem ascii absent member

/-- Octets are cut where their text is. -/
theorem takeWhile_encode {mark : Char} (ascii : mark.toNat < 128) {before : Text}
    (absent : mark ∉ before) (after : Text) :
    (encode (before ++ mark :: after)).takeWhile (· ≠ octet mark) = encode before ∧
      (encode (before ++ mark :: after)).dropWhile (· ≠ octet mark) =
        octet mark :: encode after := by
  have others := ne_octet_of_mem ascii absent
  have shape : encode (before ++ mark :: after) = encode before ++ octet mark :: encode after := by
    rw [encode_append, encode_cons, utf8EncodeChar_ascii ascii]
    rfl
  rw [shape, List.takeWhile_append_of_pos others, List.dropWhile_append_of_pos others]
  simp

theorem takeWhile_encode_of_not_mem {mark : Char} (ascii : mark.toNat < 128) {t : Text}
    (absent : mark ∉ t) :
    (encode t).takeWhile (· ≠ octet mark) = encode t ∧
      (encode t).dropWhile (· ≠ octet mark) = [] := by
  have others := ne_octet_of_mem ascii absent
  have shape : encode t = encode t ++ [] := (List.append_nil _).symm
  rw [shape, List.takeWhile_append_of_pos others, List.dropWhile_append_of_pos others]
  simp

theorem encode_eq_nil_iff {t : Text} : encode t = [] ↔ t = [] := by
  constructor
  · intro empty
    exact encode_injective empty
  · rintro rfl
    rfl

/-- Name and value of a parameter, read octet by octet. -/
theorem cut_encode_parameter (parameter : Text) :
    (encode parameter).takeWhile (· ≠ 0x3D) = encode (Query.nameAndValue parameter).1 ∧
      ((encode parameter).dropWhile (· ≠ 0x3D)).drop 1 =
        encode (Query.nameAndValue parameter).2 := by
  cases cut : Text.cut? '=' parameter with
  | none =>
    have absent : '=' ∉ parameter := by
      intro member
      obtain ⟨before, after, rfl, first⟩ := List.eq_append_cons_of_mem member
      rw [Text.cut?_append_cons '=' before after first] at cut
      cases cut
    have parts := takeWhile_encode_of_not_mem (by decide : '='.toNat < 128) absent
    rw [Query.nameAndValue, cut]
    exact ⟨parts.1, congrArg (List.drop 1) parts.2⟩
  | some parts =>
    obtain ⟨name, value⟩ := parts
    obtain ⟨rfl, absent⟩ := Text.cut?_eq_some '=' parameter name value cut
    have parts := takeWhile_encode (by decide : '='.toNat < 128) absent value
    rw [Query.nameAndValue_append_cons absent]
    exact ⟨parts.1, congrArg (List.drop 1) parts.2⟩

/-- A plus sign stands for a space, read octet by octet. -/
theorem encode_spaced (t : Text) :
    encode (Percent.spaced t) = (encode t).map fun b => if b = 0x2B then 0x20 else b := by
  induction t with
  | nil => rfl
  | cons c rest ih =>
    rw [Percent.spaced, List.map_cons, ← Percent.spaced, encode_cons, encode_cons, ih,
      List.map_append]
    congr 1
    by_cases plus : c = '+'
    · subst plus
      rfl
    · rw [if_neg plus]
      refine ((List.map_congr_left ?_).trans (List.map_id _)).symm
      intro b member
      have other : b ≠ 0x2B := by
        rintro rfl
        have single : encode [c] = String.utf8EncodeChar c := by simp
        have inside := mem_of_mem_encode (single ▸ member) (by decide)
        exact plus (List.mem_singleton.mp inside).symm
      exact if_neg other

end Utf8
end UploadInbox
