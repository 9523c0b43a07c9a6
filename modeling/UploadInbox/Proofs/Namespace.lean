import UploadInbox.Namespace
import UploadInbox.Proofs.Percent
import UploadInbox.Proofs.Text.Fields

/-!
# The user of a path

A path has a user exactly when its first segment decodes to a name of at least one character that
could be a segment itself. Two paths whose first segments decode to different names never mean the
same place, however the segments are written.
-/
namespace UploadInbox.Namespace

/-- The first segment is not empty and ends at the first slash after it. -/
theorem split?_eq_some {path segment rest : Text} (split : split? path = some (segment, rest)) :
    segment ≠ [] ∧ '/' ∉ segment := by
  cases body : path.dropWhile (· = '/') with
  | nil => simp [split?, body] at split
  | cons c tail =>
    have differs : c ≠ '/' := by
      have first := List.head_dropWhile_not (fun c => decide (c = '/')) (l := path) (by simp [body])
      simpa [body] using first
    simp only [split?, body, Option.some.injEq] at split
    cases cut : Text.cut? '/' (c :: tail) with
    | none =>
      rw [cut] at split
      cases split
      refine ⟨by simp, fun member => ?_⟩
      obtain ⟨before, after, whole, absent⟩ := List.eq_append_cons_of_mem member
      rw [whole, Text.cut?_append_cons '/' before after absent] at cut
      cases cut
    | some parts =>
      rw [cut] at split
      obtain ⟨before, after⟩ := parts
      cases split
      obtain ⟨whole, absent⟩ := Text.cut?_eq_some '/' (c :: tail) segment rest cut
      refine ⟨?_, absent⟩
      rintro rfl
      cases whole
      exact differs rfl

/-- Segment and rest are parts of the path. -/
theorem mem_of_split? {path segment rest : Text} (split : split? path = some (segment, rest))
    {c : Char} (member : c ∈ segment ∨ c ∈ rest) : c ∈ path := by
  have body : ∀ d ∈ path.dropWhile (· = '/'), d ∈ path :=
    fun d inside => (List.dropWhile_sublist _).subset inside
  refine body c ?_
  unfold split? at split
  split at split
  · cases split
  · cases cut : Text.cut? '/' (path.dropWhile (· = '/')) with
    | none =>
      simp only [cut, Option.getD_none, Option.some.injEq, Prod.mk.injEq] at split
      obtain ⟨rfl, rfl⟩ := split
      simpa using member
    | some parts =>
      obtain ⟨before, after⟩ := parts
      obtain ⟨whole, -⟩ := Text.cut?_eq_some '/' _ before after cut
      simp only [cut, Option.getD_some, Option.some.injEq, Prod.mk.injEq] at split
      obtain ⟨rfl, rfl⟩ := split
      rw [whole]
      rcases member with early | late
      · simp [early]
      · simp [late]

/-- A path that names a user. -/
structure Names (path name : Text) (segment rest : Text) : Prop where
  split : split? path = some (segment, rest)
  decoded : Percent.decode? segment = some name
  filled : name ≠ []
  flat : '/' ∉ name

theorem user_eq_ok {path name : Text} :
    user path = .ok name ↔ ∃ segment rest, Names path name segment rest := by
  constructor
  · intro success
    cases split : split? path with
    | none => simp [user, split] at success
    | some parts =>
      obtain ⟨segment, rest⟩ := parts
      cases decoded : Percent.decode? segment with
      | none => simp [user, split, decoded] at success
      | some other =>
        by_cases bad : (other.isEmpty || other.contains '/') = true
        · simp only [user, split, decoded, if_pos bad] at success
          cases success
        · simp only [user, split, decoded, if_neg bad] at success
          cases success
          simp only [Bool.or_eq_true, List.isEmpty_iff, List.contains_eq_mem, decide_eq_true_eq,
            not_or] at bad
          exact ⟨segment, rest, split, decoded, bad.1, bad.2⟩
  · rintro ⟨segment, rest, split, decoded, filled, flat⟩
    have good : ¬ (name.isEmpty || name.contains '/') = true := by simp [filled, flat]
    simp only [user, split, decoded, if_neg good]

theorem ne_nil_of_user {path name : Text} (named : user path = .ok name) : path ≠ [] := by
  rintro rfl
  cases named

def illegibleObject (rest : Text) : Error :=
  .missingObjectKey ("object key '" ++ rest ++ "' is not UTF-8")

/-- The key of an object is that of its user and of what follows, as far as that is a text. -/
theorem Names.objectKey {path name segment rest : Text} (names : Names path name segment rest)
    (object : rest ≠ []) :
    objectKey path =
      match Percent.decode? rest with
      | none => .error (illegibleObject rest)
      | some key => .ok (name ++ '/' :: key) := by
  have named : user path = .ok name := user_eq_ok.mpr ⟨segment, rest, names⟩
  cases rest with
  | nil => exact absurd rfl object
  | cons c rest =>
    rw [Namespace.objectKey, named, names.split]
    rfl

/-- The octets before the first slash of a decoded path are those of its first segment. -/
theorem takeWhile_octets {segment name : Text} (rest : Text)
    (decoded : Percent.decode? segment = some name) (flat : '/' ∉ name) :
    (Percent.octets (segment ++ '/' :: rest)).takeWhile (· ≠ 0x2F) = Utf8.encode name := by
  have parted : Percent.octets (segment ++ '/' :: rest) =
      Percent.octets segment ++ 0x2F :: Percent.octets rest :=
    Percent.octets_append_cons (by decide) (by decide) (by decide) segment rest
  have unslashed : ∀ b ∈ Utf8.encode name, decide (b ≠ 0x2F) = true := by
    intro b member
    refine decide_eq_true fun slash => flat ?_
    subst slash
    exact Utf8.mem_of_mem_encode member (by decide)
  rw [parted, Percent.decode?_eq_some.mp decoded, List.takeWhile_append_of_pos unslashed]
  simp

/-- Below segments that decode to different names, no octets mean the same place. -/
theorem octets_ne {segment segment' name name' : Text} (rest rest' : Text)
    (decoded : Percent.decode? segment = some name)
    (decoded' : Percent.decode? segment' = some name') (flat : '/' ∉ name) (flat' : '/' ∉ name')
    (differ : name ≠ name') :
    Percent.octets (segment ++ '/' :: rest) ≠ Percent.octets (segment' ++ '/' :: rest') := by
  intro same
  have first := takeWhile_octets rest decoded flat
  rw [same, takeWhile_octets rest' decoded' flat'] at first
  exact differ (Utf8.encode_injective first.symm)

end UploadInbox.Namespace
