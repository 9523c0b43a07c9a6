import UploadInbox.Proofs.Http.Headers
import UploadInbox.Proofs.Http.SortedFields
import UploadInbox.Proofs.Signing.Names
import UploadInbox.Signing.Authorization

/-!
# Authorizations as they are read

The names that an authorization lists are read back from its text, whatever the key holds. What is
signed of joined header fields are the joined fields of the signed names, no others.
-/
namespace UploadInbox.Signing

open Headers (isName isVisible isSendable)

/-! ## The list of names -/

/-- The names that an authorization lists, read from its end: what is before them may hold any
character. -/
def listedNames? (authorization : Text) : Option (List Text) := do
  let (front, _) ← Text.cutLast? ',' authorization
  let (_, names) ← Text.cutLast? ',' front
  let list ← Text.dropPrefix? " SignedHeaders=" names
  return Text.fields ';' list

theorem mem_digits_of_mem_encode {bytes : Bytes} {c : Char} (member : c ∈ Hex.encode bytes) :
    c ∈ ("0123456789abcdef" : Text) := by
  have digits : ∀ n < 16, Hex.digit n ∈ ("0123456789abcdef" : Text) := by decide
  obtain ⟨b, -, inside⟩ := List.mem_flatMap.mp member
  have bound := b.toNat_lt
  simp only [Hex.octet, List.mem_cons, List.not_mem_nil, or_false] at inside
  rcases inside with rfl | rfl
  · exact digits _ (by omega)
  · exact digits _ (by omega)

/-- An authorization lists the names of the signed fields. -/
theorem listedNames?_authorization {subject : Subject} (accessKey secretKey : Text) (scope : Scope)
    (timestamp : Text) (named : ∀ field ∈ subject.headers, isName field.1 = true)
    (filled : subject.headers ≠ []) :
    listedNames? (authorization subject accessKey secretKey scope timestamp) =
      some (subject.headers.map (·.1)) := by
  have hex {bytes : Bytes} : ',' ∉ Hex.encode bytes := by
    intro member
    exact absurd (mem_digits_of_mem_encode member) (by decide)
  have list : ',' ∉ " SignedHeaders=".toList ++ signedNames subject.headers := by
    have mark : ',' ∉ " SignedHeaders=".toList := by decide
    have names := not_mem_signedNames named (by decide : isTokenChar ',' = false) (by decide)
    simp only [List.mem_append, mark, names, or_self, not_false_eq_true]
  have shape : authorization subject accessKey secretKey scope timestamp =
      (algorithm ++ (" Credential=".toList ++ (accessKey ++ '/' :: scope.written))
        ++ ',' :: (" SignedHeaders=".toList ++ signedNames subject.headers))
      ++ ',' :: (" Signature=".toList ++ Hex.encode
        (hmac (signingKey secretKey scope) (stringToSign subject scope timestamp))) := by
    simp only [authorization, List.append_assoc]
    rfl
  have signature {bytes : Bytes} : ',' ∉ " Signature=".toList ++ Hex.encode bytes := by
    have mark : ',' ∉ " Signature=".toList := by decide
    simp only [List.mem_append, mark, hex, or_self, not_false_eq_true]
  rw [listedNames?, shape, Text.cutLast?_append_cons ',' _ _ signature]
  simp only [Option.bind_eq_bind, Option.bind_some, Text.cutLast?_append_cons ',' _ _ list,
    Text.dropPrefix?_append, fields_signedNames named filled, Option.pure_def]

/-! ## The signed fields -/

section

variable {fields : List (Text × Text)} (named : ∀ field ∈ fields, isName field.1 = true)

include named

/-- Of joined fields those of the signed names are signed. -/
theorem signedFields_joining :
    signedFields (SortedFields.joining fields) =
      SortedFields.joining (fields.filter fun field => isSigned field.1) := by
  have same : (SortedFields.joining (fields.filter fun field => isSigned field.1)).map
      (fun field => (Text.lowerAscii field.1, field.2)) =
      SortedFields.joining (fields.filter fun field => isSigned field.1) := by
    refine (List.map_congr_left fun field member => ?_).trans (List.map_id _)
    obtain ⟨original, inside, name⟩ := SortedFields.name_of_mem_joining member
    have lower := Headers.lowerAscii_name (named original (List.mem_filter.mp inside).1)
    rw [← name, lower, name]
    rfl
  rw [signedFields, SortedFields.filter_joining, same]
  exact SortedFields.ofList_of_ascending (SortedFields.ascending_joining _)

theorem ascending_signedFields_joining :
    SortedFields.Ascending (signedFields (SortedFields.joining fields)) := by
  rw [signedFields_joining named]
  exact SortedFields.ascending_joining _

theorem isName_of_mem_signedFields {field : Text × Text}
    (member : field ∈ signedFields (SortedFields.joining fields)) : isName field.1 = true := by
  rw [signedFields_joining named] at member
  obtain ⟨original, inside, same⟩ := SortedFields.name_of_mem_joining member
  rw [← same]
  exact named original (List.mem_filter.mp inside).1

/-- Under a signed name all of its values are signed, with commas between them. -/
theorem lookup_signedFields_joining (name : Text) :
    (signedFields (SortedFields.joining fields)).lookup name =
      if isSigned name then SortedFields.joined? (SortedFields.valuesOf name fields) else none := by
  rw [signedFields_joining named, ← SortedFields.filter_joining, SortedFields.lookup_filter,
    SortedFields.lookup_joining]

/-- The signed fields depend on the values of the signed names alone. -/
theorem signedFields_congr {other : List (Text × Text)}
    (named_other : ∀ field ∈ other, isName field.1 = true)
    (same : ∀ name, isSigned name = true →
      SortedFields.valuesOf name fields = SortedFields.valuesOf name other) :
    signedFields (SortedFields.joining fields) = signedFields (SortedFields.joining other) := by
  refine SortedFields.ext_of_lookup (ascending_signedFields_joining named)
    (ascending_signedFields_joining named_other) fun name => ?_
  rw [lookup_signedFields_joining named, lookup_signedFields_joining named_other]
  by_cases signed : isSigned name = true
  · rw [same name signed]
  · rw [if_neg signed, if_neg signed]

end

/-! ## What may be sent -/

theorem all_isSendable_encode (bytes : Bytes) : (Hex.encode bytes).all isSendable = true := by
  have visible : ("0123456789abcdef" : Text).all isSendable = true := by decide
  rw [List.all_eq_true] at visible ⊢
  exact fun c member => visible c (mem_digits_of_mem_encode member)

theorem all_isSendable_signedNames {fields : SortedFields}
    (named : ∀ field ∈ fields, isName field.1 = true) :
    (signedNames fields).all isSendable = true := by
  rw [signedNames_eq named, List.all_eq_true]
  refine Text.forall_mem_join (List.forall_mem_singleton.mpr (by decide)) ?_
  intro name member c
  obtain ⟨field, present, rfl⟩ := List.mem_map.mp member
  exact Headers.isSendable_of_mem_name (named field present)

/-- Whether an authorization may be sent depends on access key and region alone. -/
theorem all_isSendable_storeAuthorization (credentials : Credentials) {subject : Subject}
    {date : Text} (timestamp : Text)
    (named : ∀ field ∈ signedFields subject.headers, isName field.1 = true)
    (sendable : date.all isSendable = true) :
    (storeAuthorization credentials subject date timestamp).all isSendable =
      (credentials.accessKey.all isSendable && credentials.region.all isSendable) := by
  have names := all_isSendable_signedNames named
  have marks : algorithm.all isSendable = true ∧ terminator.all isSendable = true ∧
      storeService.all isSendable = true ∧ " Credential=".toList.all isSendable = true ∧
      ", SignedHeaders=".toList.all isSendable = true ∧
      ", Signature=".toList.all isSendable = true ∧ isSendable '/' = true := by
    decide
  obtain ⟨name, last, service, credential, list, signature, slash⟩ := marks
  simp only [storeAuthorization, authorization, Scope.written, List.all_append, List.all_cons,
    all_isSendable_encode, names, sendable, name, last, service, credential, list, signature, slash,
    Bool.true_and, Bool.and_true]

end UploadInbox.Signing
