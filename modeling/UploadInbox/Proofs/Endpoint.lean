import Mathlib.Data.List.TakeWhile
import UploadInbox.Endpoint
import UploadInbox.Proofs.Text.Characters
import UploadInbox.Proofs.Text.Decimal
import UploadInbox.Proofs.Text.Fields

/-!
# Addresses of endpoints

An address is read in one way only: scheme, host and number as `Written` puts them one after the
other. So which addresses are read, and as which endpoint, is told without the reading. The address
that an endpoint is written as is one of its addresses again, unless the number of the scheme is left
out behind a host with a colon.
-/
namespace UploadInbox.Endpoint

/-- The mark of a scheme at the front of an address. -/
def schemeMark (encrypted : Bool) : Text := if encrypted then "https://" else "http://"

/-- What may follow the host and the number of an address: nothing, or a path. -/
def IsRest (rest : Text) : Prop := rest = [] ∨ ∃ path, rest = '/' :: path

/-- The addresses of an endpoint. -/
inductive Written : Text → Endpoint → Prop
  /-- A host alone, which the number of the scheme belongs to. -/
  | bare {host rest : Text} {encrypted : Bool} (filled : host ≠ []) (flat : '/' ∉ host)
      (whole : ':' ∉ host) (ends : IsRest rest) :
      Written (schemeMark encrypted ++ (host ++ rest)) ⟨host, defaultPort encrypted, encrypted⟩
  /-- A host and a number of sixteen bits, in digits that a plus sign may precede. -/
  | numbered {host digits number rest : Text} {port : UInt16} {encrypted : Bool}
      (filled : host ≠ []) (flat : '/' ∉ host) (signed : number = digits ∨ number = '+' :: digits)
      (numeral : Decimal.IsNumeral digits port.toNat) (ends : IsRest rest) :
      Written (schemeMark encrypted ++ (host ++ ':' :: number ++ rest)) ⟨host, port, encrypted⟩

theorem afterScheme?_schemeMark (encrypted : Bool) (t : Text) :
    afterScheme? (schemeMark encrypted ++ t) = some (encrypted, t) := by
  cases encrypted with
  | true => rfl
  | false => rfl

theorem afterScheme?_eq_some {url rest : Text} {encrypted : Bool}
    (after : afterScheme? url = some (encrypted, rest)) : url = schemeMark encrypted ++ rest := by
  unfold afterScheme? at after
  split at after
  next dropped =>
    cases after
    exact Text.dropPrefix?_eq_some dropped
  next =>
    obtain ⟨plain, dropped, same⟩ := Option.map_eq_some_iff.mp after
    cases same
    exact Text.dropPrefix?_eq_some dropped

theorem takeWhile_authority {authority rest : Text} (flat : '/' ∉ authority) (ends : IsRest rest) :
    (authority ++ rest).takeWhile (· ≠ '/') = authority := by
  have kept : ∀ c ∈ authority, decide (c ≠ '/') = true := by
    intro c member
    apply decide_eq_true
    rintro rfl
    exact flat member
  rw [List.takeWhile_append_of_pos kept]
  rcases ends with rfl | ⟨path, rfl⟩
  · exact List.append_nil authority
  · exact List.append_nil authority

theorem isRest_dropWhile (t : Text) : IsRest (t.dropWhile (· ≠ '/')) := by
  induction t with
  | nil => exact .inl rfl
  | cons c rest ih =>
    by_cases slash : c = '/'
    · right
      exact ⟨rest, by simp [slash]⟩
    · simpa [slash] using ih

theorem slash_not_mem_number {digits number : Text} {n : Nat}
    (signed : number = digits ∨ number = '+' :: digits) (numeral : Decimal.IsNumeral digits n) :
    '/' ∉ number ∧ ':' ∉ number := by
  have slash : '/' ∉ digits := fun member => absurd (numeral.digits '/' member) (by decide)
  have colon : ':' ∉ digits := fun member => absurd (numeral.digits ':' member) (by decide)
  rcases signed with rfl | rfl
  · exact ⟨slash, colon⟩
  · simp [slash, colon]

theorem readUInt16?_eq_some_iff_numeral {number : Text} {port : UInt16} :
    Decimal.readUInt16? number = some port ↔
      ∃ digits, (number = digits ∨ number = '+' :: digits) ∧
        Decimal.IsNumeral digits port.toNat := by
  rw [Decimal.readUInt16?_eq_some_iff, Decimal.readSigned?_eq_some_iff]

/-- Host and number of an authority, the number of the scheme where none is written. -/
theorem hostAndPort_eq_some_iff {encrypted : Bool} {authority host : Text} {port : UInt16} :
    hostAndPort encrypted authority = some (host, port) ↔
      (authority = host ∧ ':' ∉ host ∧ port = defaultPort encrypted) ∨
        ∃ number, authority = host ++ ':' :: number ∧ ':' ∉ number ∧
          Decimal.readUInt16? number = some port := by
  cases cut : Text.cutLast? ':' authority with
  | none =>
    have absent := Text.cutLast?_eq_none_iff.mp cut
    rw [hostAndPort, cut]
    constructor
    · intro same
      cases same
      exact .inl ⟨rfl, absent, rfl⟩
    · rintro (⟨rfl, -, rfl⟩ | ⟨number, rfl, -⟩)
      · rfl
      · simp at absent
  | some parts =>
    obtain ⟨front, back⟩ := parts
    obtain ⟨rfl, last⟩ := Text.cutLast?_eq_some_iff.mp cut
    simp only [hostAndPort, cut]
    constructor
    · intro read
      obtain ⟨other, number, same⟩ := Option.map_eq_some_iff.mp read
      cases same
      exact .inr ⟨back, rfl, last, number⟩
    · rintro (⟨rfl, absent, -⟩ | ⟨number, same, absent, read⟩)
      · simp at absent
      · have other := Text.cutLast?_append_cons ':' host number absent
        rw [← same, cut] at other
        cases other
        rw [read]
        rfl

/-- With the scheme known and the path left aside, an address is read as its authority is. -/
theorem ofUrl_schemeMark_eq_ok_iff {encrypted : Bool} {authority rest : Text} {e : Endpoint}
    (flat : '/' ∉ authority) (ends : IsRest rest) :
    ofUrl (schemeMark encrypted ++ (authority ++ rest)) = .ok e ↔
      hostAndPort encrypted authority = some (e.host, e.port) ∧ e.host ≠ [] ∧
        e.encrypted = encrypted := by
  simp only [ofUrl, afterScheme?_schemeMark, takeWhile_authority flat ends]
  cases located : hostAndPort encrypted authority with
  | none => simp
  | some parts =>
    obtain ⟨host, port⟩ := parts
    obtain ⟨host', port', encrypted'⟩ := e
    by_cases empty : host = []
    · simp only [empty, List.isEmpty_nil, if_pos]
      constructor
      · nofun
      · rintro ⟨same, filled, -⟩
        cases same
        exact absurd rfl filled
    · have filled : ¬ host.isEmpty = true := by simpa using empty
      simp only [if_neg filled, Except.ok.injEq, Endpoint.mk.injEq, Option.some.injEq,
        Prod.mk.injEq]
      constructor
      · rintro ⟨rfl, rfl, rfl⟩
        exact ⟨⟨rfl, rfl⟩, empty, rfl⟩
      · rintro ⟨⟨rfl, rfl⟩, -, rfl⟩
        exact ⟨rfl, rfl, rfl⟩

/-- Every address that is read has a scheme, an authority and a rest. -/
theorem parts_of_ofUrl {url : Text} {e : Endpoint} (read : ofUrl url = .ok e) :
    ∃ encrypted authority rest, url = schemeMark encrypted ++ (authority ++ rest) ∧
      '/' ∉ authority ∧ IsRest rest := by
  cases after : afterScheme? url with
  | none =>
    rw [ofUrl, after] at read
    cases read
  | some parts =>
    obtain ⟨encrypted, rest⟩ := parts
    refine ⟨encrypted, rest.takeWhile (· ≠ '/'), rest.dropWhile (· ≠ '/'), ?_, ?_,
      isRest_dropWhile rest⟩
    · rw [List.takeWhile_append_dropWhile]
      exact afterScheme?_eq_some after
    · intro member
      have kept := List.mem_takeWhile_imp member
      exact absurd rfl (of_decide_eq_true kept)

/-- An address is read as an endpoint exactly when it is an address of that endpoint. -/
theorem ofUrl_eq_ok_iff {url : Text} {e : Endpoint} : ofUrl url = .ok e ↔ Written url e := by
  constructor
  · intro read
    obtain ⟨encrypted, authority, rest, rfl, flat, ends⟩ := parts_of_ofUrl read
    obtain ⟨located, filled, same⟩ := (ofUrl_schemeMark_eq_ok_iff flat ends).mp read
    obtain ⟨host, port, encrypted'⟩ := e
    simp only at located filled same
    subst same
    rcases hostAndPort_eq_some_iff.mp located with ⟨rfl, whole, rfl⟩ | ⟨number, rfl, -, read⟩
    · exact .bare filled flat whole ends
    · obtain ⟨digits, signed, numeral⟩ := readUInt16?_eq_some_iff_numeral.mp read
      have bare : '/' ∉ host := fun member => flat (List.mem_append_left _ member)
      exact .numbered filled bare signed numeral ends
  · intro written
    cases written with
    | bare filled flat whole ends =>
      apply (ofUrl_schemeMark_eq_ok_iff flat ends).mpr
      exact ⟨hostAndPort_eq_some_iff.mpr (.inl ⟨rfl, whole, rfl⟩), filled, rfl⟩
    | numbered filled flat signed numeral ends =>
      obtain ⟨slash, colon⟩ := slash_not_mem_number signed numeral
      apply (ofUrl_schemeMark_eq_ok_iff (by simp [flat, slash]) ends).mpr
      refine ⟨hostAndPort_eq_some_iff.mpr (.inr ⟨_, rfl, colon, ?_⟩), filled, rfl⟩
      exact readUInt16?_eq_some_iff_numeral.mpr ⟨_, signed, numeral⟩

/-! ## Endpoints read back -/

theorem scheme_append (e : Endpoint) : e.scheme ++ "://" = schemeMark e.encrypted := by
  obtain ⟨host, port, encrypted⟩ := e
  cases encrypted with
  | true => rfl
  | false => rfl

/-- The number is left out of the authority of a host that has a colon, so that the end of the host
stands where a number would. -/
def Blurred (e : Endpoint) : Prop := e.port = defaultPort e.encrypted ∧ ':' ∈ e.host

instance (e : Endpoint) : Decidable (Blurred e) :=
  inferInstanceAs (Decidable (e.port = defaultPort e.encrypted ∧ ':' ∈ e.host))

theorem slash_not_mem_authority {e : Endpoint} (flat : '/' ∉ e.host) : '/' ∉ e.authority := by
  unfold authority
  split
  · exact flat
  · simp [flat, Decimal.not_mem_ofNat]

/-- An authority denotes the host and the number it was made of, unless it is blurred. -/
theorem hostAndPort_authority_iff (e : Endpoint) :
    hostAndPort e.encrypted e.authority = some (e.host, e.port) ↔ ¬ e.Blurred := by
  rw [hostAndPort_eq_some_iff, Blurred]
  by_cases standard : e.port = defaultPort e.encrypted
  · have same : e.authority = e.host := if_pos standard
    rw [same]
    constructor
    · rintro (⟨-, whole, -⟩ | ⟨number, longer, -⟩) ⟨-, colon⟩
      · exact whole colon
      · simp at longer
    · intro clear
      exact .inl ⟨rfl, fun colon => clear ⟨standard, colon⟩, standard⟩
  · have numbered : e.authority = e.host ++ ':' :: Decimal.ofNat e.port.toNat := if_neg standard
    refine iff_of_true (.inr ⟨_, numbered, ?_, ?_⟩) fun blurred => standard blurred.1
    · exact Decimal.not_mem_ofNat (by decide) e.port.toNat
    · exact Decimal.readUInt16?_ofNat e.port

theorem ofUrl_baseUrl_append_iff {url rest : Text} {e : Endpoint} (read : ofUrl url = .ok e)
    (ends : IsRest rest) : ofUrl (e.baseUrl ++ rest) = .ok e ↔ ¬ e.Blurred := by
  have host : e.host ≠ [] ∧ '/' ∉ e.host := by
    cases ofUrl_eq_ok_iff.mp read with
    | bare filled flat => exact ⟨filled, flat⟩
    | numbered filled flat => exact ⟨filled, flat⟩
  obtain ⟨filled, flat⟩ := host
  rw [baseUrl, scheme_append, List.append_assoc,
    ofUrl_schemeMark_eq_ok_iff (slash_not_mem_authority flat) ends, hostAndPort_authority_iff]
  simp [filled]

/-- The address of an endpoint, alone or with any path behind it, is read as that endpoint, and its
authority as its host and number, exactly when the endpoint is not blurred. -/
theorem readBack_iff_not_blurred {url : Text} {e : Endpoint} (read : ofUrl url = .ok e) :
    (ofUrl e.baseUrl = .ok e ↔ ¬ e.Blurred) ∧
    (∀ path, ofUrl (e.baseUrl ++ '/' :: path) = .ok e ↔ ¬ e.Blurred) ∧
    (hostAndPort e.encrypted e.authority = some (e.host, e.port) ↔ ¬ e.Blurred) := by
  refine ⟨?_, fun path => ?_, hostAndPort_authority_iff e⟩
  · have alone := ofUrl_baseUrl_append_iff read (.inl rfl)
    rwa [List.append_nil] at alone
  · exact ofUrl_baseUrl_append_iff read (.inr ⟨path, rfl⟩)

/-- A host in brackets with a number that is not the one of the scheme. -/
def bracketedHost : Endpoint := ⟨"[::1]", 8443, true⟩

theorem readBack_bracketedHost :
    ofUrl "https://[::1]:+8443/s3" = .ok bracketedHost ∧
      ofUrl "https://[::1]:8443" = .ok bracketedHost ∧
      (∀ path, ofUrl ("https://[::1]:8443" ++ '/' :: path) = .ok bracketedHost) ∧
      hostAndPort true "[::1]:8443" = some (bracketedHost.host, 8443) := by
  have read : ofUrl "https://[::1]:+8443/s3" = .ok bracketedHost := by decide
  have clear : ¬ bracketedHost.Blurred := by decide
  obtain ⟨alone, followed, authority⟩ := readBack_iff_not_blurred read
  exact ⟨read, alone.mpr clear, fun path => (followed path).mpr clear, authority.mpr clear⟩

/-- Without its number a host in brackets is refused, and another host with a colon is read as a host
of another name at another number. -/
theorem not_readBack_blurred :
    ofUrl "http://[::1]:80" = .ok ⟨"[::1]", 80, false⟩ ∧
      ofUrl (baseUrl ⟨"[::1]", 80, false⟩) =
        .error (.config "backend url 'http://[::1]' has an invalid port") ∧
      ofUrl "http://store:9000:80" = .ok ⟨"store:9000", 80, false⟩ ∧
      ofUrl (baseUrl ⟨"store:9000", 80, false⟩) = .ok ⟨"store", 9000, false⟩ := by
  decide

end UploadInbox.Endpoint
