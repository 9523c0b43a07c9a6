import UploadInbox.Http.Url
import UploadInbox.Proofs.Http.Uri

/-!
# Addresses that are sent as they are

A client writes an address anew before it sends it. A query of characters that encoding writes and
of the marks between parameters stays as it is, and a question mark before it stays the first.
-/
namespace UploadInbox

namespace Url

open Query (isParameterChar lt_of_isParameterChar)

theorem escape_of_kept {p : UInt8 → Bool} {t : Text} (ascii : ∀ c ∈ t, c.toNat < 128)
    (kept : ∀ c ∈ t, p (UInt8.ofNat c.toNat) = false) : escape p t = t := by
  induction t with
  | nil => rfl
  | cons c rest ih =>
    have here := kept c List.mem_cons_self
    have small := ascii c List.mem_cons_self
    have later := ih (fun d member => ascii d (List.mem_cons_of_mem c member))
      fun d member => kept d (List.mem_cons_of_mem c member)
    have number : (UInt8.ofNat c.toNat).toNat = c.toNat := Utf8.toNat_octet (by omega)
    rw [escape] at later
    rw [escape, Utf8.encode_cons, Utf8.utf8EncodeChar_ascii small, List.flatMap_append, later,
      List.flatMap_singleton, if_neg (by rw [here]; exact Bool.false_ne_true), number,
      Char.ofNat_toNat]
    rfl

theorem escape_query {query : Text} (chars : ∀ c ∈ query, isParameterChar c = true) :
    escape isForbiddenInQuery query = query := by
  have ascii : ∀ c ∈ query, c.toNat < 128 := fun c member => lt_of_isParameterChar (chars c member)
  refine escape_of_kept ascii fun c member => ?_
  have free := imp_of_ascii isParameterChar (fun d => !isForbiddenInQuery (UInt8.ofNat d.toNat))
    (by decide +kernel) (ascii c member) (chars c member)
  exact (Bool.not_eq_true' _).mp free

theorem question_not_mem_escape (path : Text) : '?' ∉ escape isForbiddenInPath path := by
  intro member
  obtain ⟨b, -, inside⟩ := List.mem_flatMap.mp member
  have every : ∀ n < 256, '?' ∉ (if isForbiddenInPath (UInt8.ofNat n) then
      '%' :: Hex.upperOctet (UInt8.ofNat n) else [Char.ofNat (UInt8.ofNat n).toNat]) := by
    decide +kernel
  have absent := every b.toNat b.toNat_lt
  rw [UInt8.ofNat_toNat] at absent
  exact absent inside

/-- What follows the first question mark of an address is sent as it stands. -/
theorem target_append_cons {before query : Text} (bare : '?' ∉ before) (whole : '#' ∉ before)
    (chars : ∀ c ∈ query, isParameterChar c = true) :
    ∃ path, '?' ∉ path ∧ target (before ++ '?' :: query) = path ++ '?' :: query := by
  let kept := before.filter fun c => c ≠ '\t' && c ≠ '\n' && c ≠ '\r'
  have subset : ∀ c ∈ kept, c ∈ before := fun c member => (List.mem_filter.mp member).1
  have filtered : (before ++ '?' :: query).filter (fun c => c ≠ '\t' && c ≠ '\n' && c ≠ '\r') =
      kept ++ '?' :: query := by
    have blanks : query.filter (fun c => c ≠ '\t' && c ≠ '\n' && c ≠ '\r') = query := by
      refine List.filter_eq_self.mpr fun c member => ?_
      simp [ne_of_class (chars c member) (by decide : isParameterChar '\t' = false),
        ne_of_class (chars c member) (by decide : isParameterChar '\n' = false),
        ne_of_class (chars c member) (by decide : isParameterChar '\r' = false)]
    rw [List.filter_append, List.filter_cons_of_pos (by decide), blanks]
  have unbroken : (kept ++ '?' :: query).takeWhile (· ≠ '#') = kept ++ '?' :: query := by
    refine Uri.withoutFragment_of_not_mem fun member => ?_
    rcases List.mem_append.mp member with early | late
    · exact whole (subset _ early)
    · have inside := (List.mem_cons.mp late).resolve_left (by decide)
      exact not_mem_of_class chars (by decide) inside
  have cut : Text.cut? '?' (kept ++ '?' :: query) = some (kept, query) :=
    Text.cut?_append_cons '?' kept query fun member => bare (subset _ member)
  simp only [target, filtered, unbroken, cut, escape_query chars]
  exact ⟨_, question_not_mem_escape _, rfl⟩

end Url
end UploadInbox
