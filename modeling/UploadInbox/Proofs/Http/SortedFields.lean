import Mathlib.Data.List.Induction
import Mathlib.Data.List.Perm.Subperm
import UploadInbox.Http.SortedFields
import UploadInbox.Proofs.Text.Fields
import UploadInbox.Proofs.Text.Order

/-!
# Looking up sorted fields

Sorted fields are determined by what is looked up in them. The names of fields that were put one by
one ascend, and under each name stands what was put there: for joined fields, all values of the name
in their order with commas between them.
-/
namespace UploadInbox.SortedFields

variable {merge : Text → Text → Text} {fields : SortedFields} {name value : Text}

def Ascending (fields : SortedFields) : Prop := fields.Pairwise fun a b => a.1 < b.1

theorem lookup_cons_of_ne {other : Text} (apart : name ≠ other) (present : Text)
    (rest : SortedFields) :
    List.lookup name ((other, present) :: rest) = List.lookup name rest := by
  rw [List.lookup_cons, beq_false_of_ne apart]

theorem lookup_eq_none_of_forall_lt (above : ∀ field ∈ fields, name < field.1) :
    fields.lookup name = none := by
  rw [List.lookup_eq_none_iff]
  intro field member
  have apart : name ≠ field.1 := (above field member).ne
  simpa using apart

theorem mem_iff_lookup (ascending : Ascending fields) :
    (name, value) ∈ fields ↔ fields.lookup name = some value := by
  induction fields with
  | nil => simp
  | cons first rest ih =>
    obtain ⟨other, present⟩ := first
    obtain ⟨above, rest_ascending⟩ := List.pairwise_cons.mp ascending
    by_cases same : name = other
    · subst same
      have absent : (name, value) ∉ rest := fun member => lt_irrefl name (above _ member)
      simp [absent, eq_comm]
    · rw [lookup_cons_of_ne same, ← ih rest_ascending]
      simp [same]

theorem mem_names_iff : name ∈ fields.map (·.1) ↔ (fields.lookup name).isSome = true := by
  have matched {field : Text × Text} : (name == field.1) = true ↔ field.1 = name :=
    beq_iff_eq.trans eq_comm
  simp [List.lookup_isSome_iff, matched]

/-- Fields in ascending order are the same when all look-ups in them are. -/
theorem ext_of_lookup {other : SortedFields} (ascending : Ascending fields)
    (other_ascending : Ascending other) (same : ∀ name, fields.lookup name = other.lookup name) :
    fields = other := by
  have distinct {sorted : SortedFields} (ascending : Ascending sorted) : sorted.Nodup :=
    List.Pairwise.imp (fun below equal => below.ne (congrArg Prod.fst equal)) ascending
  -- Both hold the same fields, and of these fields only one list is in ascending order.
  have perm : fields.Perm other := by
    refine (List.perm_ext_iff_of_nodup (distinct ascending) (distinct other_ascending)).mpr ?_
    rintro ⟨name, value⟩
    rw [mem_iff_lookup ascending, mem_iff_lookup other_ascending, same]
  refine List.Perm.eq_of_pairwise ?_ ascending other_ascending perm
  intro a b _ _ below above
  exact absurd below above.asymm

/-! ## One field -/

theorem name_of_mem_put {field : Text × Text} (member : field ∈ put merge name value fields) :
    field.1 = name ∨ field.1 ∈ fields.map (·.1) := by
  induction fields with
  | nil => exact .inl (congrArg Prod.fst (List.mem_singleton.mp member))
  | cons first rest ih =>
    obtain ⟨other, present⟩ := first
    rw [put] at member
    split at member
    · rcases List.mem_cons.mp member with rfl | later
      · simp
      · exact .inr (List.mem_map_of_mem (List.mem_cons_of_mem _ later))
    · split at member
      · rcases List.mem_cons.mp member with rfl | kept
        · exact .inl rfl
        · exact .inr (List.mem_map_of_mem kept)
      · rcases List.mem_cons.mp member with rfl | later
        · simp
        · exact (ih later).imp_right fun inside => List.mem_cons_of_mem _ inside

theorem ascending_put (ascending : Ascending fields) :
    Ascending (put merge name value fields) := by
  induction fields with
  | nil => exact List.pairwise_singleton _ _
  | cons first rest ih =>
    obtain ⟨other, present⟩ := first
    obtain ⟨above, rest_ascending⟩ := List.pairwise_cons.mp ascending
    rw [put]
    split
    next => exact List.pairwise_cons.mpr ⟨above, rest_ascending⟩
    next differs =>
      split
      next least =>
        have before : name < other := lt_of_le_of_ne (Text.le_iff.mp least) (Ne.symm differs)
        refine List.pairwise_cons.mpr ⟨fun field member => ?_, ascending⟩
        rcases List.mem_cons.mp member with rfl | later
        · exact before
        · exact before.trans (above field later)
      next greater =>
        have after : other < name := Text.lt_of_not_le greater
        refine List.pairwise_cons.mpr ⟨fun field member => ?_, ih rest_ascending⟩
        rcases name_of_mem_put member with same | inside
        · exact same ▸ after
        · obtain ⟨kept, kept_member, same⟩ := List.mem_map.mp inside
          exact same ▸ above kept kept_member

/-- What stands under a name after a value was put there. -/
theorem lookup_put_self (ascending : Ascending fields) :
    (put merge name value fields).lookup name =
      some (((fields.lookup name).map (merge · value)).getD value) := by
  induction fields with
  | nil => simp [put]
  | cons first rest ih =>
    obtain ⟨other, present⟩ := first
    obtain ⟨above, rest_ascending⟩ := List.pairwise_cons.mp ascending
    rw [put]
    split
    next same => simp [same]
    next differs =>
      rw [lookup_cons_of_ne (Ne.symm differs)]
      split
      next least =>
        have before : name < other := lt_of_le_of_ne (Text.le_iff.mp least) (Ne.symm differs)
        have absent : rest.lookup name = none :=
          lookup_eq_none_of_forall_lt fun field member => before.trans (above field member)
        simp [absent]
      next => rw [lookup_cons_of_ne (Ne.symm differs), ih rest_ascending]

theorem lookup_put_of_ne {other : Text} (apart : other ≠ name) :
    (put merge name value fields).lookup other = fields.lookup other := by
  induction fields with
  | nil => exact lookup_cons_of_ne apart value []
  | cons first rest ih =>
    obtain ⟨key, present⟩ := first
    rw [put]
    split
    next same => rw [same, lookup_cons_of_ne apart, lookup_cons_of_ne apart]
    next =>
      split
      · rw [lookup_cons_of_ne apart]
      · rw [List.lookup_cons, List.lookup_cons, ih]

theorem put_of_forall_lt (below : ∀ field ∈ fields, field.1 < name) :
    put merge name value fields = fields ++ [(name, value)] := by
  induction fields with
  | nil => rfl
  | cons first rest ih =>
    obtain ⟨other, present⟩ := first
    have here : other < name := below (other, present) List.mem_cons_self
    have greater : ¬ Text.le name other = true := by
      rw [Text.le_iff]
      exact not_le.mpr here
    rw [put, if_neg here.ne, if_neg greater,
      ih fun field member => below field (List.mem_cons_of_mem _ member)]
    rfl

/-! ## Lists of fields -/

/-- The values of a name, in order. -/
def valuesOf (name : Text) (fields : List (Text × Text)) : List Text :=
  (fields.filter fun field => field.1 = name).map (·.2)

def joined? (values : List Text) : Option Text :=
  if values.isEmpty then none else some (Text.join [','] values)

theorem joined?_append_singleton (values : List Text) (value : Text) :
    joined? (values ++ [value]) =
      some (((joined? values).map (· ++ ',' :: value)).getD value) := by
  cases values with
  | nil => rfl
  | cons first others =>
    have joined := Text.join_append_singleton [','] value (first :: others) (by simp)
    simp only [joined?, joined]
    simp

/-- However two values become one, names that were put one by one ascend. -/
theorem ascending_foldl_put (merge : Text → Text → Text) (fields : List (Text × Text)) :
    Ascending (fields.foldl (fun sorted field => put merge field.1 field.2 sorted) []) := by
  induction fields using List.reverseRecOn with
  | nil => exact List.Pairwise.nil
  | append_singleton fields field ih =>
    rw [List.foldl_append]
    exact ascending_put ih

theorem ascending_joining (fields : List (Text × Text)) : Ascending (joining fields) :=
  ascending_foldl_put _ fields

theorem ascending_ofList (fields : List (Text × Text)) : Ascending (ofList fields) :=
  ascending_foldl_put _ fields

/-- Under each name stand all of its values, with commas between them. -/
theorem lookup_joining (fields : List (Text × Text)) (name : Text) :
    (joining fields).lookup name = joined? (valuesOf name fields) := by
  induction fields using List.reverseRecOn with
  | nil => rfl
  | append_singleton fields field ih =>
    have last : joining (fields ++ [field]) =
        put (fun present later => present ++ ',' :: later) field.1 field.2 (joining fields) := by
      rw [joining, List.foldl_append]
      rfl
    by_cases same : field.1 = name
    · subst same
      have values :
          valuesOf field.1 (fields ++ [field]) = valuesOf field.1 fields ++ [field.2] := by
        simp [valuesOf]
      rw [last, lookup_put_self (ascending_joining fields), ih, values, joined?_append_singleton]
    · rw [last, lookup_put_of_ne (Ne.symm same), ih]
      simp [valuesOf, same]

/-- Under each name stands the last of its values. -/
theorem lookup_ofList (fields : List (Text × Text)) (name : Text) :
    (ofList fields).lookup name = (valuesOf name fields).getLast? := by
  induction fields using List.reverseRecOn with
  | nil => rfl
  | append_singleton fields field ih =>
    have last : ofList (fields ++ [field]) =
        put (fun _ later => later) field.1 field.2 (ofList fields) := by
      rw [ofList, List.foldl_append]
      rfl
    by_cases same : field.1 = name
    · subst same
      have values :
          valuesOf field.1 (fields ++ [field]) = valuesOf field.1 fields ++ [field.2] := by
        simp [valuesOf]
      rw [last, lookup_put_self (ascending_ofList fields), values, List.getLast?_concat]
      cases (ofList fields).lookup field.1 with
      | none => rfl
      | some present => rfl
    · rw [last, lookup_put_of_ne (Ne.symm same), ih]
      simp [valuesOf, same]

/-- In whatever order fields are gone through, what is found under a condition that one name alone
meets is what stands there. -/
theorem find?_of_perm {other : SortedFields} (ascending : Ascending fields)
    (order : other.Perm fields) {p : Text → Bool}
    (single : ∀ field ∈ fields, p field.1 = true ↔ field.1 = name) :
    find? p other = fields.lookup name := by
  cases located : List.find? (fun field => p field.1) other with
  | none =>
    have absent : name ∉ fields.map (·.1) := by
      intro member
      obtain ⟨field, inside, same⟩ := List.mem_map.mp member
      have missed := List.find?_eq_none.mp located field (order.mem_iff.mpr inside)
      exact missed ((single field inside).mpr same)
    rw [mem_names_iff, Option.not_isSome_iff_eq_none] at absent
    rw [find?, located, absent]
    rfl
  | some field =>
    have inside : field ∈ fields := order.mem_iff.mp (List.mem_of_find?_eq_some located)
    have matched := List.find?_some located
    have named : field.1 = name := (single field inside).mp matched
    subst named
    rw [find?, located, (mem_iff_lookup ascending).mp inside]
    rfl

theorem valuesOf_eq_nil_iff {fields : List (Text × Text)} :
    valuesOf name fields = [] ↔ ∀ field ∈ fields, field.1 ≠ name := by
  simp [valuesOf, List.filter_eq_nil_iff]

theorem name_of_mem_joining {fields : List (Text × Text)} {field : Text × Text}
    (member : field ∈ joining fields) : ∃ original ∈ fields, original.1 = field.1 := by
  have found := (mem_iff_lookup (ascending_joining fields)).mp member
  rw [lookup_joining] at found
  refine Classical.byContradiction fun absent => ?_
  have none_there : valuesOf field.1 fields = [] := by
    rw [valuesOf_eq_nil_iff]
    exact fun original inside same => absent ⟨original, inside, same⟩
  rw [none_there] at found
  cases found

theorem ofList_of_ascending (ascending : Ascending fields) : ofList fields = fields := by
  induction fields using List.reverseRecOn with
  | nil => rfl
  | append_singleton fields field ih =>
    obtain ⟨before, -, below⟩ := List.pairwise_append.mp ascending
    have kept : ofList fields = fields := ih before
    rw [ofList, List.foldl_append]
    change put _ field.1 field.2 (ofList fields) = _
    rw [kept]
    exact put_of_forall_lt fun other member => below other member field (List.mem_singleton_self _)

theorem lookup_filter (p : Text → Bool) (fields : List (Text × Text)) (name : Text) :
    (fields.filter fun field => p field.1).lookup name =
      if p name then fields.lookup name else none := by
  induction fields with
  | nil => simp
  | cons first rest ih =>
    obtain ⟨other, present⟩ := first
    by_cases same : name = other
    · subst same
      by_cases kept : p name = true
      · simp [kept]
      · simp [kept, ih]
    · by_cases kept : p other = true
      · simp [kept, lookup_cons_of_ne same, ih]
      · simp [kept, lookup_cons_of_ne same, ih]

/-- Fields are joined name by name: it does not matter whether names are left out before or
after. -/
theorem filter_joining (p : Text → Bool) (fields : List (Text × Text)) :
    (joining fields).filter (fun field => p field.1) =
      joining (fields.filter fun field => p field.1) := by
  refine ext_of_lookup ((ascending_joining fields).filter _) (ascending_joining _) fun name => ?_
  rw [lookup_filter, lookup_joining, lookup_joining, valuesOf, valuesOf, List.filter_filter]
  split
  next kept =>
    have same : fields.filter (fun field => decide (field.1 = name) && p field.1) =
        fields.filter fun field => field.1 = name := by
      refine List.filter_congr fun field _ => ?_
      by_cases named : field.1 = name
      · simp [named, kept]
      · simp [named]
    rw [same]
  next dropped =>
    have none_left : fields.filter (fun field => decide (field.1 = name) && p field.1) = [] := by
      rw [List.filter_eq_nil_iff]
      intro field _ both
      simp only [Bool.and_eq_true, decide_eq_true_eq] at both
      exact dropped (both.1 ▸ both.2)
    rw [none_left]
    rfl

/-- The texts among the values of a name. -/
theorem valuesOf_visible (headers : Headers) (name : Text) :
    valuesOf name headers.visible = (headers.values name).filterMap Headers.visible? := by
  unfold valuesOf Headers.visible Headers.values
  induction headers.fields with
  | nil => rfl
  | cons field rest ih =>
    obtain ⟨other, value⟩ := field
    by_cases same : other = name
    · cases shown : Headers.visible? value with
      | none => simpa [same, shown] using ih
      | some t => simpa [same, shown] using ih
    · cases shown : Headers.visible? value with
      | none => simpa [same, shown] using ih
      | some t => simpa [same, shown] using ih

end UploadInbox.SortedFields
