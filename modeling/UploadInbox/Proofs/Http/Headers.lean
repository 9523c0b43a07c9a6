import UploadInbox.Http.Headers
import UploadInbox.Proofs.Text.Utf8

/-!
# Values of header fields

A value is a text exactly when it is the octets of visible characters, spaces and tabs; such a text
may always be sent. What removing and setting one name does is said by the values of every name.
-/
namespace UploadInbox.Headers

/-! ## Values that are texts -/

def isVisible (c : Char) : Bool := (0x20 ≤ c.toNat && c.toNat < 0x7F) || c.toNat == 9

/-- Whether a character may be sent in a value: all but the controls. -/
def isSendable (c : Char) : Bool := (0x20 ≤ c.toNat && c.toNat != 0x7F) || c.toNat == 9

theorem lt_of_isVisible {c : Char} (visible : isVisible c = true) : c.toNat < 128 := by
  simp only [isVisible, Bool.or_eq_true, Bool.and_eq_true, decide_eq_true_eq, beq_iff_eq] at visible
  omega

theorem isSendable_of_isVisible {c : Char} (visible : isVisible c = true) :
    isSendable c = true := by
  simp only [isVisible, isSendable, Bool.or_eq_true, Bool.and_eq_true, decide_eq_true_eq,
    beq_iff_eq, bne_iff_ne] at visible ⊢
  omega

/-- The condition on an octet of a text, on its number. -/
theorem visible_octet_iff {b : UInt8} :
    ((0x20 ≤ b && b < 0x7F) || b == 9) = true ↔
      0x20 ≤ b.toNat ∧ b.toNat < 0x7F ∨ b.toNat = 9 := by
  simp only [Bool.or_eq_true, Bool.and_eq_true, decide_eq_true_eq, beq_iff_eq,
    UInt8.le_iff_toNat_le, UInt8.lt_iff_toNat_lt, ← UInt8.toNat_inj]
  rfl

theorem sendable_octet_iff {b : UInt8} :
    ((0x20 ≤ b && b != 0x7F) || b == 9) = true ↔
      0x20 ≤ b.toNat ∧ b.toNat ≠ 0x7F ∨ b.toNat = 9 := by
  simp only [Bool.or_eq_true, Bool.and_eq_true, decide_eq_true_eq, beq_iff_eq, bne_iff_ne, ne_eq,
    UInt8.le_iff_toNat_le, ← UInt8.toNat_inj]
  rfl

theorem encode_of_visible {t : Text} (visible : ∀ c ∈ t, isVisible c = true) :
    Utf8.encode t = t.map fun c => UInt8.ofNat c.toNat := by
  induction t with
  | nil => rfl
  | cons c rest ih =>
    have ascii := lt_of_isVisible (visible c List.mem_cons_self)
    have later := ih fun d member => visible d (List.mem_cons_of_mem c member)
    rw [Utf8.encode_cons, Utf8.utf8EncodeChar_ascii ascii, later]
    rfl

/-- A value is a text exactly when it is the octets of visible characters. -/
theorem visible?_eq_some {value : Bytes} {t : Text} :
    visible? value = some t ↔ value = Utf8.encode t ∧ ∀ c ∈ t, isVisible c = true := by
  constructor
  · intro shown
    unfold visible? at shown
    split at shown
    next all =>
      rw [List.all_eq_true] at all
      obtain rfl := Option.some.inj shown
      have number (b : UInt8) (member : b ∈ value) : (Char.ofNat b.toNat).toNat = b.toNat :=
        Utf8.toNat_ofNat_valid (.inl (by have := b.toNat_lt; omega))
      have visible : ∀ c ∈ value.map fun b => Char.ofNat b.toNat, isVisible c = true := by
        intro c member
        obtain ⟨b, inside, rfl⟩ := List.mem_map.mp member
        have octet := visible_octet_iff.mp (all b inside)
        simp only [isVisible, number b inside, Bool.or_eq_true, Bool.and_eq_true,
          decide_eq_true_eq, beq_iff_eq]
        omega
      refine ⟨?_, visible⟩
      rw [encode_of_visible visible, List.map_map]
      refine ((List.map_congr_left fun b inside => ?_).trans (List.map_id value)).symm
      exact Utf8.ofNat_eq (number b inside)
    next => cases shown
  · rintro ⟨rfl, visible⟩
    have all : (Utf8.encode t).all (fun b => (0x20 ≤ b && b < 0x7F) || b == 9) = true := by
      rw [List.all_eq_true, encode_of_visible visible]
      intro b member
      obtain ⟨c, inside, rfl⟩ := List.mem_map.mp member
      have shown := visible c inside
      have ascii := lt_of_isVisible shown
      simp only [isVisible, Bool.or_eq_true, Bool.and_eq_true, decide_eq_true_eq,
        beq_iff_eq] at shown
      rw [visible_octet_iff, Utf8.toNat_octet (by omega)]
      omega
    rw [visible?, if_pos all, encode_of_visible visible, List.map_map]
    refine congrArg some ((List.map_congr_left fun c inside => ?_).trans (List.map_id t))
    have ascii := lt_of_isVisible (visible c inside)
    simp only [Function.comp_apply, Utf8.toNat_octet (show c.toNat < 256 by omega),
      Char.ofNat_toNat, id_eq]

theorem visible?_encode {t : Text} (visible : ∀ c ∈ t, isVisible c = true) :
    visible? (Utf8.encode t) = some t :=
  visible?_eq_some.mpr ⟨rfl, visible⟩

theorem visible?_encode_isSome_iff {t : Text} :
    (visible? (Utf8.encode t)).isSome = true ↔ ∀ c ∈ t, isVisible c = true := by
  constructor
  · intro shown
    obtain ⟨other, text⟩ := Option.isSome_iff_exists.mp shown
    obtain ⟨same, visible⟩ := visible?_eq_some.mp text
    rw [Utf8.encode_injective same]
    exact visible
  · intro visible
    rw [visible?_encode visible]
    rfl

/-- Part of a text, octet by octet, is a text. -/
theorem visible?_isSome_of_subset {value whole : Bytes} (shown : (visible? whole).isSome = true)
    (part : ∀ b ∈ value, b ∈ whole) : (visible? value).isSome = true := by
  unfold visible? at shown ⊢
  split at shown
  next all =>
    rw [List.all_eq_true] at all
    have all_part := List.all_eq_true.mpr fun b member => all b (part b member)
    rw [if_pos all_part]
    rfl
  next => cases shown

/-- Values that are texts are the octets of these texts. -/
theorem map_encode_visible {values : List Bytes}
    (shown : ∀ value ∈ values, (visible? value).isSome = true) :
    (values.filterMap visible?).map Utf8.encode = values := by
  induction values with
  | nil => rfl
  | cons value values ih =>
    have later := ih fun other member => shown other (List.mem_cons_of_mem value member)
    obtain ⟨t, text⟩ := Option.isSome_iff_exists.mp (shown value List.mem_cons_self)
    rw [List.filterMap_cons, text]
    simp only [List.map_cons, later, ← (visible?_eq_some.mp text).1]

/-- The octets of a text may be sent exactly when its characters may. -/
theorem isValue_encode (t : Text) : isValue (Utf8.encode t) = t.all isSendable := by
  induction t with
  | nil => rfl
  | cons c rest ih =>
    have split (bytes more : Bytes) : isValue (bytes ++ more) = (isValue bytes && isValue more) :=
      List.all_append
    rw [Utf8.encode_cons, split, ih, List.all_cons]
    congr 1
    by_cases ascii : c.toNat < 128
    · rw [Utf8.utf8EncodeChar_ascii ascii, Bool.eq_iff_iff, isValue]
      simp only [List.all_cons, List.all_nil, Bool.and_true]
      rw [sendable_octet_iff, Utf8.toNat_octet (by omega)]
      simp [isSendable]
    · have wide : isSendable c = true := by
        simp only [isSendable, Bool.or_eq_true, Bool.and_eq_true, decide_eq_true_eq, bne_iff_ne]
        omega
      rw [wide, isValue, List.all_eq_true]
      intro b member
      have large := Utf8.le_of_mem_utf8EncodeChar (by omega) member
      rw [sendable_octet_iff]
      omega

/-! ## Values by name -/

theorem lowerAscii_name {name : Text} (named : isName name = true) :
    Text.lowerAscii name = name := by
  simp only [isName, Bool.and_eq_true, decide_eq_true_eq] at named
  exact named.2

theorem values_eq_nil_iff {headers : Headers} {name : Text} :
    headers.values name = [] ↔ headers.has name = false := by
  simp [values, has, List.filter_eq_nil_iff]

theorem first?_eq_none_iff {headers : Headers} {name : Text} :
    headers.first? name = none ↔ headers.has name = false := by
  rw [first?, List.head?_eq_none_iff, values_eq_nil_iff]

/-- Fields are found under names in lowercase alone. -/
theorem values_of_lowerAscii_ne (headers : Headers) {name : Text}
    (spelled : Text.lowerAscii name ≠ name) : headers.values name = [] := by
  rw [values, List.map_eq_nil_iff, List.filter_eq_nil_iff]
  intro field member same
  rw [decide_eq_true_eq] at same
  exact spelled (same ▸ lowerAscii_of_mem member)

@[simp] theorem fields_remove (headers : Headers) (name : Text) :
    (headers.remove name).fields = headers.fields.filter (·.1 ≠ name) := rfl

@[simp] theorem fields_set (headers : Headers) (name : Text) (value : Bytes)
    (valid : isName name = true) :
    (headers.set name value valid).fields =
      headers.fields.filter (·.1 ≠ name) ++ [(name, value)] := rfl

theorem values_remove_of_ne (headers : Headers) {name other : Text} (apart : name ≠ other) :
    (headers.remove other).values name = headers.values name := by
  unfold values
  rw [fields_remove, List.filter_filter]
  refine congrArg _ (List.filter_congr fun field _ => ?_)
  by_cases same : field.1 = name
  · simp [same, apart]
  · simp [same]

theorem values_set_of_ne (headers : Headers) {name other : Text} (value : Bytes)
    (valid : isName other = true) (apart : name ≠ other) :
    (headers.set other value valid).values name = headers.values name := by
  have removed := values_remove_of_ne headers apart
  have added : ([(other, value)] : List (Text × Bytes)).filter (·.1 = name) = [] := by
    simp [Ne.symm apart]
  simp only [values, fields_remove, fields_set, List.filter_append, added, List.append_nil] at *
  exact removed

theorem isName_of_mem_visible {headers : Headers} {field : Text × Text}
    (member : field ∈ headers.visible) : isName field.1 = true := by
  obtain ⟨sent, inside, shown⟩ := List.mem_filterMap.mp member
  obtain ⟨value, -, rfl⟩ := Option.map_eq_some_iff.mp shown
  exact headers.named sent inside

/-! ## Fields in the place of others -/

/-- The fields of some names are taken out of a header section, and fields of these names are added
at its end. -/
structure Replaces (names : List Text) (own : List (Text × Bytes)) (before after : Headers) :
    Prop where
  fields : after.fields = before.fields.filter (fun field => field.1 ∉ names) ++ own
  inside : ∀ field ∈ own, field.1 ∈ names

namespace Replaces

variable {names : List Text} {own : List (Text × Bytes)} {before after : Headers} {name : Text}

theorem refl (headers : Headers) : Replaces [] [] headers headers := by
  refine ⟨?_, by simp⟩
  rw [List.append_nil, List.filter_eq_self.mpr (by simp)]

theorem fresh (replaces : Replaces names own before after) (other : name ∉ names) :
    ∀ field ∈ own, field.1 ≠ name := by
  rintro field member rfl
  exact other (replaces.inside field member)

theorem remove (replaces : Replaces names own before after)
    (fresh : ∀ field ∈ own, field.1 ≠ name) :
    Replaces (name :: names) own before (after.remove name) := by
  refine ⟨?_, fun field member => List.mem_cons_of_mem name (replaces.inside field member)⟩
  have kept : own.filter (·.1 ≠ name) = own := by
    rw [List.filter_eq_self]
    exact fun field member => decide_eq_true (fresh field member)
  rw [fields_remove, replaces.fields, List.filter_append, kept, List.filter_filter]
  congr 1
  refine List.filter_congr fun field _ => ?_
  simp

theorem set (replaces : Replaces names own before after) (value : Bytes)
    (valid : isName name = true) (fresh : ∀ field ∈ own, field.1 ≠ name) :
    Replaces (name :: names) (own ++ [(name, value)]) before (after.set name value valid) := by
  have removed := replaces.remove fresh
  refine ⟨?_, ?_⟩
  · rw [fields_set, ← fields_remove, removed.fields, List.append_assoc]
  · intro field member
    rcases List.mem_append.mp member with old | added
    · exact removed.inside field old
    · rw [List.mem_singleton.mp added]
      exact List.mem_cons_self

/-- A name that does not occur may as well be taken out. -/
theorem absent (replaces : Replaces names own before after) (none_there : before.has name = false) :
    Replaces (name :: names) own before after := by
  refine ⟨?_, fun field member => List.mem_cons_of_mem name (replaces.inside field member)⟩
  rw [replaces.fields]
  congr 1
  refine List.filter_congr fun field member => ?_
  have other : field.1 ≠ name := by
    have none_there := List.any_eq_false.mp none_there field member
    simpa using none_there
  simp [other]

theorem congr {others : List Text} (replaces : Replaces names own before after)
    (same : ∀ name, name ∈ names ↔ name ∈ others) : Replaces others own before after := by
  refine ⟨?_, fun field member => (same field.1).mp (replaces.inside field member)⟩
  rw [replaces.fields]
  congr 1
  exact List.filter_congr fun field _ => decide_eq_decide.mpr (not_congr (same field.1))

theorem values_of_not_mem (replaces : Replaces names own before after) (other : name ∉ names) :
    after.values name = before.values name := by
  have none_own : own.filter (·.1 = name) = [] := by
    rw [List.filter_eq_nil_iff]
    intro field member same
    exact other (of_decide_eq_true same ▸ replaces.inside field member)
  rw [values, replaces.fields, List.filter_append, none_own, List.append_nil, List.filter_filter,
    values]
  refine congrArg _ (List.filter_congr fun field _ => ?_)
  by_cases same : field.1 = name
  · simp [same, other]
  · simp [same]

theorem values_of_mem (replaces : Replaces names own before after) (inside : name ∈ names) :
    after.values name = (own.filter (·.1 = name)).map (·.2) := by
  have none_kept :
      (before.fields.filter fun field => field.1 ∉ names).filter (·.1 = name) = [] := by
    rw [List.filter_eq_nil_iff]
    intro field member same
    have kept := of_decide_eq_true (List.mem_filter.mp member).2
    exact kept (of_decide_eq_true same ▸ inside)
  rw [values, replaces.fields, List.filter_append, none_kept, List.nil_append]

/-- One more field makes no difference to the values of other names. -/
theorem values_of_append {others : Headers} {other : Text} {value : Bytes}
    (replaces : Replaces names own before after)
    (more : Replaces names (own ++ [(other, value)]) before others) (apart : name ≠ other) :
    others.values name = after.values name := by
  by_cases inside : name ∈ names
  · rw [more.values_of_mem inside, replaces.values_of_mem inside, List.filter_append]
    simp [Ne.symm apart]
  · rw [more.values_of_not_mem inside, replaces.values_of_not_mem inside]

/-- To replace the same fields by the same once more changes nothing. -/
theorem again (replaces : Replaces names own before after) : Replaces names own after after := by
  refine ⟨?_, replaces.inside⟩
  have none_own : own.filter (fun field => field.1 ∉ names) = [] := by
    rw [List.filter_eq_nil_iff]
    intro field member outside
    exact of_decide_eq_true outside (replaces.inside field member)
  conv => rhs; rw [replaces.fields, List.filter_append, none_own, List.append_nil,
    List.filter_filter]
  simp only [Bool.and_self]
  exact replaces.fields

theorem unique {other : Headers} (replaces : Replaces names own before after)
    (replaces_other : Replaces names own before other) : after = other := by
  have same : after.fields = other.fields := replaces.fields.trans replaces_other.fields.symm
  cases after
  cases other
  cases same
  rfl

end Replaces

end UploadInbox.Headers
