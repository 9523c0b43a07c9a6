import UploadInbox.Route
import UploadInbox.Proofs.Query

/-!
# Listings confined to a user

A listing goes on with the parameters it came with, in their order, and every prefix among them put
below the user's own; one without a prefix gets the user's own. Whatever was written for a prefix,
it decodes to octets that begin with those of the user's name and a slash.
-/
namespace UploadInbox.Route

def writtenPrefix (user : Text) : Text := Percent.encode (user ++ ['/'])

theorem encode_append_slash (user : Text) :
    Percent.encode user ++ "%2F" = writtenPrefix user := by
  rw [writtenPrefix, Percent.encode_append]
  rfl

def scopePair (user : Text) (pair : Text × Text) : Text × Text :=
  if Percent.queryComponent pair.1 = "prefix" then (("prefix" : Text), writtenPrefix user ++ pair.2)
  else pair

theorem isPrefixParameter_iff {parameter : Text} :
    isPrefixParameter parameter = true ↔
      Percent.queryComponent (Query.nameAndValue parameter).1 = "prefix" :=
  decide_eq_true_iff

theorem nameAndValue_prefix (value : Text) :
    Query.nameAndValue ("prefix=" ++ value) = (("prefix" : Text), value) := by
  have bare : '=' ∉ ("prefix" : Text) := by decide
  exact Query.nameAndValue_append_cons bare

theorem nameAndValue_scopeParameter (user parameter : Text) :
    Query.nameAndValue (scopeParameter (writtenPrefix user) parameter) =
      scopePair user (Query.nameAndValue parameter) := by
  by_cases restricts : isPrefixParameter parameter = true
  · rw [scopeParameter, if_pos restricts, scopePair, if_pos (isPrefixParameter_iff.mp restricts),
      List.append_assoc, nameAndValue_prefix]
  · rw [scopeParameter, if_neg restricts, scopePair,
      if_neg fun named => restricts (isPrefixParameter_iff.mpr named)]

theorem not_mem_value {parameter : Text} {mark : Char} (sound : mark ∉ parameter) :
    mark ∉ (Query.nameAndValue parameter).2 := by
  cases cut : Text.cut? '=' parameter with
  | none => simp [Query.nameAndValue, cut]
  | some parts =>
    obtain ⟨name, value⟩ := parts
    obtain ⟨rfl, -⟩ := Text.cut?_eq_some '=' parameter name value cut
    simp only [Query.nameAndValue, cut, Option.getD_some]
    exact fun member => sound (by simp [member])

theorem scopeParameters_ne_nil (userPrefix : Text) (parameters : List Text) :
    scopeParameters userPrefix parameters ≠ [] := by
  cases parameters with
  | nil => simp [scopeParameters]
  | cons first others => simp [scopeParameters]

/-- Confined parameters can be put together with ampersands and taken apart again. -/
theorem sound_scopeParameters (user query : Text) :
    ∀ item ∈ scopeParameters (writtenPrefix user) (Query.parameters query),
      item ≠ [] ∧ '&' ∉ item := by
  have bare : '&' ∉ writtenPrefix user := Percent.not_mem_encode (by decide) _
  intro item member
  rcases List.mem_append.mp member with given | added
  · obtain ⟨parameter, inside, rfl⟩ := List.mem_map.mp given
    have sound := Query.mem_parameters inside
    unfold scopeParameter
    split
    · have value := not_mem_value sound.2
      simp [bare, value]
    · exact sound
  · split at added
    · cases added
    · rw [List.mem_singleton.mp added]
      simp [bare]

theorem parameters_scopeListing (query : Option Text) (user : Text) :
    Query.parameters (scopeListing query user) =
      scopeParameters (writtenPrefix user) (Query.parameters (query.getD [])) := by
  rw [scopeListing, encode_append_slash]
  exact Query.parameters_join (scopeParameters_ne_nil _ _)
    (sound_scopeParameters user (query.getD []))

theorem any_isPrefixParameter (query : Option Text) :
    (Query.parameters (query.getD [])).any isPrefixParameter = Query.has "prefix" query := by
  rw [Query.has, Query.pairs, List.any_map]
  rfl

/-- The names and values of a confined listing. -/
theorem pairs_scopeListing (query : Option Text) (user : Text) :
    Query.pairs (scopeListing query user) =
      (Query.pairs (query.getD [])).map (scopePair user) ++
        if Query.has "prefix" query then [] else [(("prefix" : Text), writtenPrefix user)] := by
  have last := nameAndValue_prefix (writtenPrefix user)
  rw [Query.pairs, parameters_scopeListing, scopeParameters, any_isPrefixParameter, List.map_append,
    List.map_map, Query.pairs, List.map_map]
  congr 1
  · exact List.map_congr_left fun parameter _ => nameAndValue_scopeParameter user parameter
  · split
    · rfl
    · rw [List.map_singleton, last]

/-- What a confined listing carries is its user's prefix, or came with it and is no prefix. -/
theorem mem_pairs_scopeListing {query : Option Text} {user : Text} {pair : Text × Text}
    (member : pair ∈ Query.pairs (scopeListing query user)) :
    (∃ value, pair = (("prefix" : Text), writtenPrefix user ++ value)) ∨
      pair ∈ Query.pairs (query.getD []) ∧ Percent.queryComponent pair.1 ≠ "prefix" := by
  rw [pairs_scopeListing] at member
  rcases List.mem_append.mp member with given | added
  · obtain ⟨original, inside, rfl⟩ := List.mem_map.mp given
    by_cases restricts : Percent.queryComponent original.1 = "prefix"
    · rw [scopePair, if_pos restricts]
      exact .inl ⟨original.2, rfl⟩
    · rw [scopePair, if_neg restricts]
      exact .inr ⟨inside, restricts⟩
  · split at added
    · cases added
    · rw [List.mem_singleton.mp added]
      exact .inl ⟨[], by rw [List.append_nil]⟩

theorem exists_prefix_scopeListing (query : Option Text) (user : Text) :
    ∃ value, (("prefix" : Text), writtenPrefix user ++ value) ∈
      Query.pairs (scopeListing query user) := by
  rw [pairs_scopeListing]
  by_cases present : Query.has "prefix" query = true
  · obtain ⟨pair, inside, restricts⟩ := Query.has_iff.mp present
    refine ⟨pair.2, List.mem_append_left _ (List.mem_map.mpr ⟨pair, inside, ?_⟩)⟩
    rw [scopePair, if_pos restricts]
  · refine ⟨[], List.mem_append_right _ ?_⟩
    rw [if_neg present, List.append_nil]
    exact List.mem_singleton_self _

/-! ## What a confined listing asks for -/

/-- A parameter is a prefix, octet by octet. -/
def IsPrefix (parameter : Text) : Prop :=
  Percent.queryOctets (Query.nameAndValue parameter).1 = Utf8.encode "prefix"

instance : DecidablePred IsPrefix := fun _ => decEq _ _

def valueOctets (parameter : Text) : Bytes :=
  Percent.queryOctets (Query.nameAndValue parameter).2

def prefixes (query : Text) : List Bytes :=
  ((Query.parameters query).filter (IsPrefix ·)).map valueOctets

/-- The parameters of a query that are no prefix, as they are written. -/
def otherParameters (query : Text) : List Text :=
  (Query.parameters query).filter (¬ IsPrefix ·)

def keyPrefix (user : Text) : Bytes := Utf8.encode (user ++ ['/'])

/-- How a query that was confined to a user stands to the one that it was made of. -/
structure ConfinedTo (user query confined : Text) : Prop where
  /-- Every prefix that was asked for is asked for below the user's own, in order. -/
  below : prefixes query ≠ [] → prefixes confined = (prefixes query).map (keyPrefix user ++ ·)
  /-- Where no prefix was asked for, the user's own is, behind everything else. -/
  added : prefixes query = [] → prefixes confined = [keyPrefix user] ∧
    ∃ parameter, IsPrefix parameter ∧
      Query.parameters confined = Query.parameters query ++ [parameter]
  others : otherParameters confined = otherParameters query
  /-- The store is asked for some prefix, and whichever it goes by, it lists keys of the user. -/
  restricted : prefixes confined ≠ []
  keys : ∀ honoured ∈ prefixes confined, ∀ key, honoured <+: key → keyPrefix user <+: key

section

variable {parameter : Text}

theorem isPrefix_iff :
    IsPrefix parameter ↔ Percent.queryComponent (Query.nameAndValue parameter).1 = "prefix" := by
  have plain : '%' ∉ ("prefix" : Text) := by decide
  exact (Percent.component_eq_iff plain).symm

theorem isPrefixParameter_eq (parameter : Text) :
    isPrefixParameter parameter = decide (IsPrefix parameter) := by
  rw [isPrefixParameter, decide_eq_decide, isPrefix_iff]

theorem isPrefix_scopeParameter {user : Text} :
    IsPrefix (scopeParameter (writtenPrefix user) parameter) ↔ IsPrefix parameter := by
  rw [isPrefix_iff, isPrefix_iff, nameAndValue_scopeParameter, scopePair]
  split
  next restricts => exact iff_of_true rfl restricts
  next => rfl

/-- The prefix that a parameter was given stands below the user's own. -/
theorem valueOctets_scopeParameter (user : Text) (restricts : IsPrefix parameter) :
    valueOctets (scopeParameter (writtenPrefix user) parameter) =
      keyPrefix user ++ valueOctets parameter := by
  rw [valueOctets, nameAndValue_scopeParameter, scopePair, if_pos (isPrefix_iff.mp restricts)]
  exact Percent.queryOctets_encode_append (user ++ ['/']) (Query.nameAndValue parameter).2

theorem scopeParameter_of_not (userPrefix : Text) (free : ¬ IsPrefix parameter) :
    scopeParameter userPrefix parameter = parameter := by
  rw [scopeParameter, isPrefixParameter_eq, decide_eq_false free]
  rfl

end

/-- Parameters among which there is no prefix are left as they are. -/
theorem map_scopeParameter_of_not {parameters : List Text} (userPrefix : Text)
    (free : ∀ parameter ∈ parameters, ¬ IsPrefix parameter) :
    parameters.map (scopeParameter userPrefix) = parameters := by
  apply (List.map_congr_left _).trans (List.map_id _)
  intro parameter member
  exact scopeParameter_of_not userPrefix (free parameter member)

theorem isPrefix_added (value : Text) : IsPrefix ("prefix=" ++ value) := by
  rw [isPrefix_iff, nameAndValue_prefix]
  rfl

/-- What is added to a listing without a prefix. -/
theorem valueOctets_added (user : Text) :
    valueOctets ("prefix=" ++ writtenPrefix user) = keyPrefix user := by
  rw [valueOctets, nameAndValue_prefix]
  exact Percent.queryOctets_encode (user ++ ['/'])

theorem prefixes_eq_nil_iff {query : Text} :
    prefixes query = [] ↔ ∀ parameter ∈ Query.parameters query, ¬ IsPrefix parameter := by
  rw [prefixes, List.map_eq_nil_iff, List.filter_eq_nil_iff]
  simp only [decide_eq_true_eq]

theorem any_isPrefixParameter_iff {query : Text} :
    (Query.parameters query).any isPrefixParameter = true ↔ prefixes query ≠ [] := by
  rw [Ne, prefixes_eq_nil_iff, ← Bool.not_eq_false, List.any_eq_false]
  simp only [isPrefixParameter_eq, decide_eq_true_eq]

/-- The prefixes of a confined query, given or added. -/
theorem prefixes_scopeListing (query : Option Text) (user : Text) :
    prefixes (scopeListing query user) =
      (prefixes (query.getD [])).map (keyPrefix user ++ ·) ++
        if prefixes (query.getD []) ≠ [] then [] else [keyPrefix user] := by
  have kept : (decide <| IsPrefix ·) ∘ scopeParameter (writtenPrefix user) =
      (decide <| IsPrefix ·) := by
    funext parameter
    simp only [Function.comp_apply, isPrefix_scopeParameter]
  rw [prefixes, parameters_scopeListing, scopeParameters, List.filter_append, List.map_append]
  congr 1
  · rw [List.filter_map, kept, List.map_map, prefixes, List.map_map]
    apply List.map_congr_left
    intro parameter member
    exact valueOctets_scopeParameter user (of_decide_eq_true (List.mem_filter.mp member).2)
  · simp only [any_isPrefixParameter_iff]
    split
    · rfl
    · have restricts := decide_eq_true (isPrefix_added (writtenPrefix user))
      rw [List.filter_cons_of_pos (p := (decide <| IsPrefix ·)) restricts, List.filter_nil,
        List.map_singleton, valueOctets_added]

theorem otherParameters_scopeListing (query : Option Text) (user : Text) :
    otherParameters (scopeListing query user) = otherParameters (query.getD []) := by
  have kept : (decide <| ¬ IsPrefix ·) ∘ scopeParameter (writtenPrefix user) =
      (decide <| ¬ IsPrefix ·) := by
    funext parameter
    simp only [Function.comp_apply, isPrefix_scopeParameter]
  rw [otherParameters, parameters_scopeListing, scopeParameters, List.filter_append,
    List.filter_map, kept, ← List.append_nil (otherParameters _)]
  congr 1
  · apply map_scopeParameter_of_not
    intro parameter member
    exact of_decide_eq_true (List.mem_filter.mp member).2
  · split
    · rfl
    · have restricts := isPrefix_added (writtenPrefix user)
      rw [List.filter_cons_of_neg (by rw [decide_eq_true_eq]; exact not_not_intro restricts),
        List.filter_nil]

/-- A listing that was confined to a user asks for what it asked for before, and for nothing outside
the namespace of the user. -/
theorem confinedTo_scopeListing (query : Option Text) (user : Text) :
    ConfinedTo user (query.getD []) (scopeListing query user) := by
  have asked := prefixes_scopeListing query user
  have below : ∀ honoured ∈ prefixes (scopeListing query user), keyPrefix user <+: honoured := by
    intro honoured member
    rw [asked] at member
    rcases List.mem_append.mp member with given | added
    · obtain ⟨original, -, rfl⟩ := List.mem_map.mp given
      exact List.prefix_append (keyPrefix user) original
    · split at added
      · cases added
      · obtain rfl := List.mem_singleton.mp added
        exact List.prefix_rfl
  constructor
  case below =>
    intro present
    rw [asked, if_pos present, List.append_nil]
  case added =>
    intro absent
    refine ⟨by rw [asked, absent]; rfl, "prefix=" ++ writtenPrefix user, isPrefix_added _, ?_⟩
    have untouched := map_scopeParameter_of_not (writtenPrefix user) (prefixes_eq_nil_iff.mp absent)
    rw [parameters_scopeListing, scopeParameters, untouched,
      if_neg fun found => any_isPrefixParameter_iff.mp found absent]
  case others => exact otherParameters_scopeListing query user
  case restricted =>
    rw [asked]
    split
    next present => simpa using present
    next => simp
  case keys =>
    intro honoured member key lists
    exact (below honoured member).trans lists

example : scopeListing (some "pre%66ix=bob%2F&max-keys=1&prefix=%") "a&b" =
    "prefix=a%26b%2Fbob%2F&max-keys=1&prefix=a%26b%2F%" := by decide

end UploadInbox.Route
