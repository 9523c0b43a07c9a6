import Mathlib.Algebra.Order.Field.Rat
import UploadInbox.Token.Verification

/-!
# The time within which a token is valid

A token says until when it is valid and may say from when on. Clocks may differ by a leeway, so that
a token ought to be accepted from that long before its start to that long after its end. Here the
start of a token is not looked at, and the leeway is taken off the instant in sixty-four bits.
`Lapse` says which tokens are judged wrongly for the one or the other; all others are accepted
within their time and not outside it.
-/
namespace UploadInbox

/-- The number that a value is, if it is one. -/
def Json.rational? : Json → Option ℚ
  | .natural n => some n.toNat
  | .negative distance => some (-distance)
  | .decimal below digits exponent => some ((if below then -1 else 1) * digits * 10 ^ exponent)
  | _ => none

namespace Token

/-! ## What else there is to a token -/

/-- The header of a token names the algorithm of a verifier, and its signature is right. -/
structure Authentic (verifier : Verifier) (parts : Parts) : Prop where
  header : ∃ octets, Base64.decodeUrlSafe? parts.header = some octets ∧
    (jsonOfBytes? octets).bind headerAlgorithm? = some verifier.algorithm
  signed : ∃ isSignature signature, verifier.check parts.message = .ok isSignature ∧
    Base64.decodeUrlSafe? parts.signature = some signature ∧ isSignature signature = true

/-- A value has the claims of a token that is for no particular audience. -/
structure WellFormed (json : Json) (claims : Claims) : Prop where
  claims : Claims.ofJson? json = some claims
  notBefore_once : (json.members "nbf").length ≤ 1
  notBefore_flat : (json.members "nbf").all isFlat = true
  audience_once : (json.members "aud").length ≤ 1
  audience : (json.members "aud").any isAudience = false

/-- What the claims of a token hold. -/
def payload? (token : Text) : Option Json :=
  (Parts.ofText? token).bind fun parts => (Base64.decodeUrlSafe? parts.claims).bind jsonOfBytes?

/-- Nothing but the time can be wrong with a token. -/
structure OtherwiseValid (verifier : Verifier) (token : Text) (json : Json) (claims : Claims) :
    Prop where
  authentic : ∃ parts, Parts.ofText? token = some parts ∧ Authentic verifier parts
  payload : payload? token = some json
  formed : WellFormed json claims

variable {verifier : Verifier} {token : Text} {json : Json} {claims : Claims} {now : UInt64}

theorem WellFormed.accept (formed : WellFormed json claims) {octets : Bytes}
    (read : jsonOfBytes? octets = some json) :
    verifier.accept now octets =
      if verifier.isExpired now claims.expiry then .error .expired else .ok claims := by
  simp only [Verifier.accept, read, formed.claims, Nat.not_lt.mpr formed.notBefore_once,
    Nat.not_lt.mpr formed.audience_once, formed.notBefore_flat, formed.audience]
  rfl

theorem accept_eq_ok_iff {octets : Bytes} :
    verifier.accept now octets = .ok claims ↔
      ∃ json, jsonOfBytes? octets = some json ∧ WellFormed json claims ∧
        verifier.isExpired now claims.expiry = false := by
  constructor
  · intro accepted
    unfold Verifier.accept at accepted
    split at accepted
    next => cases accepted
    rename_i json read
    split at accepted
    next => cases accepted
    rename_i claims known
    simp only at accepted
    split at accepted
    next => cases accepted
    rename_i formed
    split at accepted
    next => cases accepted
    rename_i lasting
    split at accepted
    next => cases accepted
    rename_i audience
    cases accepted
    simp only [Bool.or_eq_true, decide_eq_true_eq, Bool.not_eq_true', not_or, not_lt,
      Bool.not_eq_false] at formed
    obtain ⟨⟨notBefore_once, audience_once⟩, flat⟩ := formed
    exact ⟨json, read, ⟨known, notBefore_once, flat, audience_once,
      Bool.eq_false_iff.mpr audience⟩, Bool.eq_false_iff.mpr lasting⟩
  · rintro ⟨json, read, formed, lasting⟩
    rw [formed.accept read, lasting]
    rfl

/-- The verdict on a token that is otherwise valid. -/
theorem OtherwiseValid.verify_eq (valid : OtherwiseValid verifier token json claims)
    (now : UInt64) :
    verifier.verify now token =
      if verifier.isExpired now claims.expiry then .error .expired else .ok claims := by
  obtain ⟨⟨parts, split, ⟨header, decoded, named⟩, isSignature, signature, check, given, right⟩,
    payload, formed⟩ := valid
  rw [payload?, split, Option.bind_some] at payload
  obtain ⟨octets, written, read⟩ := Option.bind_eq_some_iff.mp payload
  simp only [Verifier.verify, split, decoded, named, check, given, right, written,
    formed.accept read, ne_eq, not_true_eq_false, Bool.not_true, Bool.false_eq_true, if_false]

/-- A token is accepted when nothing else is wrong with it and it has not expired. -/
theorem verify_eq_ok_iff :
    verifier.verify now token = .ok claims ↔
      (∃ json, OtherwiseValid verifier token json claims) ∧
        verifier.isExpired now claims.expiry = false := by
  constructor
  · intro accepted
    unfold Verifier.verify at accepted
    split at accepted
    next => cases accepted
    rename_i parts split
    split at accepted
    next => cases accepted
    rename_i header decoded
    split at accepted
    next => cases accepted
    rename_i algorithm named
    split at accepted
    next => cases accepted
    rename_i expected
    obtain rfl : algorithm = verifier.algorithm := not_not.mp expected
    split at accepted
    next => cases accepted
    rename_i isSignature check
    split at accepted
    next => cases accepted
    rename_i signature given
    split at accepted
    next => cases accepted
    rename_i right
    split at accepted
    next => cases accepted
    rename_i octets written
    obtain ⟨json, read, formed, lasting⟩ := accept_eq_ok_iff.mp accepted
    have payload : payload? token = some json := by
      rw [payload?, split, Option.bind_some, written, Option.bind_some, read]
    exact ⟨⟨json, ⟨parts, split, ⟨header, decoded, named⟩, isSignature, signature, check, given,
      by simpa using right⟩, payload, formed⟩, lasting⟩
  · rintro ⟨⟨json, valid⟩, lasting⟩
    rw [valid.verify_eq, lasting]
    rfl

/-- Nothing else about a token depends on the leeway. -/
theorem OtherwiseValid.withLeeway (valid : OtherwiseValid verifier token json claims)
    (leeway : UInt64) : OtherwiseValid { verifier with leeway } token json claims := by
  obtain ⟨⟨parts, split, header, signed⟩, payload, formed⟩ := valid
  exact ⟨⟨parts, split, header, signed⟩, payload, formed⟩

/-! ## Time -/

/-- Whether a token lasts, as it is counted in sixty-four bits: a leeway beyond the instant goes
around. -/
def Lasts (leeway now expiry : UInt64) : Prop :=
  if leeway.toNat ≤ now.toNat then now.toNat ≤ expiry.toNat + leeway.toNat
  else now.toNat + 2 ^ 64 ≤ expiry.toNat + leeway.toNat

theorem isExpired_eq_false_iff {expiry : UInt64} :
    verifier.isExpired now expiry = false ↔ Lasts verifier.leeway now expiry := by
  have bounds := And.intro now.toNat_lt verifier.leeway.toNat_lt
  rw [Verifier.isExpired, decide_eq_false_iff_not, UInt64.lt_iff_toNat_lt, UInt64.toNat_sub, Lasts]
  split
  · omega
  · omega

/-- The instants from which on a token says that it is valid. -/
def notBefore (json : Json) : List ℚ := (json.members "nbf").filterMap Json.rational?

/-- What a token says of its start allows an instant. -/
def Mature (leeway now : UInt64) (json : Json) : Prop :=
  ∀ start ∈ notBefore json, start ≤ now.toNat + leeway.toNat

/-- An instant is within the time of a token, give or take the leeway. -/
structure InWindow (leeway now : UInt64) (json : Json) (claims : Claims) : Prop where
  unexpired : now.toNat ≤ claims.expiry.toNat + leeway.toNat
  mature : Mature leeway now json

/-- What makes the verdict on a token wrong. -/
inductive Lapse (leeway now : UInt64) (json : Json) (claims : Claims) : Prop
  /-- It begins later, and does not count as expired. -/
  | early (lasts : Lasts leeway now claims.expiry) (early : ¬ Mature leeway now json)
  /-- The leeway reaches back beyond the start of time, which makes the token count as expired. -/
  | around (beyond : now.toNat < leeway.toNat)
    (short : claims.expiry.toNat + leeway.toNat < now.toNat + 2 ^ 64)
    (mature : Mature leeway now json)

theorem lasts_iff_inWindow_iff_not_lapse {leeway : UInt64} :
    (Lasts leeway now claims.expiry ↔ InWindow leeway now json claims) ↔
      ¬ Lapse leeway now json claims := by
  constructor
  -- either lapse sets the two sides against each other
  · rintro agree (⟨lasts, early⟩ | ⟨beyond, short, mature⟩)
    · exact early (agree.mp lasts).mature
    · have unexpired : now.toNat ≤ claims.expiry.toNat + leeway.toNat := by omega
      have lasts := agree.mpr ⟨unexpired, mature⟩
      rw [Lasts, if_neg (by omega)] at lasts
      omega
  · intro sound
    constructor
    -- what lasts in sixty-four bits lasts, so only the start could be wrong; the other way only
    -- the leeway could
    · intro lasts
      refine ⟨?_, not_not.mp fun early => sound (.early lasts early)⟩
      unfold Lasts at lasts
      split at lasts
      · exact lasts
      · omega
    · rintro ⟨unexpired, mature⟩
      by_contra short
      unfold Lasts at short
      split at short
      next => exact short unexpired
      next beyond => exact sound (.around (by omega) (by omega) mature)

/-- A longer leeway, if it is not beyond the instant, keeps a token from expiring. -/
theorem Lasts.mono {leeway more expiry : UInt64} (lasts : Lasts leeway now expiry)
    (longer : leeway ≤ more) (within : more ≤ now) : Lasts more now expiry := by
  rw [UInt64.le_iff_toNat_le] at longer within
  rw [Lasts, if_pos (by omega)] at lasts ⊢
  omega

/-! ## Verdicts -/

variable {files : Files} {config : AuthConfig}

/-- Settings with another leeway make the same verifier but for that. -/
theorem ofConfig_withLeeway (files : Files) (config : AuthConfig) (leeway : UInt64) :
    Verifier.ofConfig files { config with leeway } =
      (Verifier.ofConfig files config).map fun verifier => { verifier with leeway } := by
  have keyed : ({ config with leeway } : AuthConfig).isKeyed = config.isKeyed := rfl
  unfold Verifier.ofConfig
  rw [keyed]
  dsimp only
  cases Algorithm.ofName? config.algorithm with
  | none => rfl
  | some algorithm =>
    cases config.isKeyed with
    | true => rfl
    | false =>
      cases config.publicKeyPath with
      | none => rfl
      | some path =>
        dsimp only
        cases files.read path with
        | error reason => rfl
        | ok file =>
          dsimp only
          cases fileKey? config.algorithm file with
          | none => rfl
          | some key => rfl

theorem leeway_of_ofConfig (built : Verifier.ofConfig files config = .ok verifier) :
    verifier.leeway = config.leeway := by
  -- the settings are those with their own leeway
  have same := ofConfig_withLeeway files config config.leeway
  rw [built] at same
  have again : verifier = { verifier with leeway := config.leeway } := Except.ok.inj same
  rw [again]

/-- A token that is otherwise valid is accepted within its time and refused as expired outside it,
unless there is a lapse. A longer leeway, up to the instant, refuses nothing that was accepted. -/
theorem accepted_iff_inWindow_iff_not_lapse
    (built : Verifier.ofConfig files config = .ok verifier)
    (valid : OtherwiseValid verifier token json claims) (now : UInt64) :
    (verifier.verify now token = .ok claims ∨ verifier.verify now token = .error .expired) ∧
    ((verifier.verify now token = .ok claims ↔ InWindow config.leeway now json claims) ↔
      ¬ Lapse config.leeway now json claims) ∧
    ∀ more, config.leeway ≤ more → more ≤ now → verifier.verify now token = .ok claims →
      ∃ longer, Verifier.ofConfig files { config with leeway := more } = .ok longer ∧
        longer.verify now token = .ok claims := by
  have accepted {verifier : Verifier} (valid : OtherwiseValid verifier token json claims) :
      verifier.verify now token = .ok claims ↔ Lasts verifier.leeway now claims.expiry := by
    rw [verify_eq_ok_iff, and_iff_right ⟨json, valid⟩, isExpired_eq_false_iff]
  refine ⟨?_, ?_, ?_⟩
  · rw [valid.verify_eq]
    split
    · exact .inr rfl
    · exact .inl rfl
  · rw [accepted valid, leeway_of_ofConfig built]
    exact lasts_iff_inWindow_iff_not_lapse
  · intro more longer within verified
    have made := ofConfig_withLeeway files config more
    rw [built] at made
    refine ⟨_, made, (accepted (valid.withLeeway more)).mpr ?_⟩
    have lasts := (accepted valid).mp verified
    rw [leeway_of_ofConfig built] at lasts
    exact lasts.mono longer within

/-! ## A token for two instants -/

/-- Tokens are signed with a shared secret. -/
def secretConfig (leeway : UInt64) : AuthConfig := ⟨true, "HS256", "s", none, leeway⟩

/-- What tokens of a shared secret are verified with. -/
def secretVerifier (leeway : UInt64) : Verifier := ⟨.keyed .sha256, Utf8.encode "s", leeway⟩

def tokenFrom8Until9 : Text :=
  "eyJhbGciOiJIUzI1NiJ9.eyJzdWIiOiJhIiwiZXhwIjo5LCJuYmYiOjh9."
    ++ "pPg77lJRBe9b3AdccDr6ZHs7GVuFF2D3Pr2IDWqnt_w"

theorem otherwiseValid_tokenFrom8Until9 (leeway : UInt64) :
    ∃ json claims, OtherwiseValid (secretVerifier leeway) tokenFrom8Until9 json claims ∧
      notBefore json = [8] ∧ claims.expiry = 9 := by
  have accepted : ((secretVerifier 0).verify 8 tokenFrom8Until9).toOption.map (·.expiry) = some 9 := by
    decide +kernel
  have begins : (payload? tokenFrom8Until9).map notBefore = some [8] := by decide +kernel
  cases verdict : (secretVerifier 0).verify 8 tokenFrom8Until9 with
  | error fault =>
    rw [verdict] at accepted
    cases accepted
  | ok claims =>
    rw [verdict] at accepted
    obtain ⟨⟨json, valid⟩, -⟩ := verify_eq_ok_iff.mp verdict
    rw [valid.payload] at begins
    exact ⟨json, claims, valid.withLeeway leeway, Option.some.inj begins, Option.some.inj accepted⟩

theorem accepted_tokenFrom8Until9 :
    ∃ json claims, Verifier.ofConfig (.ofList []) (secretConfig 0) = .ok (secretVerifier 0) ∧
      OtherwiseValid (secretVerifier 0) tokenFrom8Until9 json claims ∧ InWindow 0 8 json claims ∧
      (secretVerifier 0).verify 8 tokenFrom8Until9 = .ok claims := by
  obtain ⟨json, claims, valid, begins, ends⟩ := otherwiseValid_tokenFrom8Until9 0
  have built : Verifier.ofConfig (.ofList []) (secretConfig 0) = .ok (secretVerifier 0) := rfl
  have mature : Mature 0 8 json := by simp [Mature, begins]
  have within : InWindow 0 8 json claims := ⟨by rw [ends]; decide, mature⟩
  have sound : ¬ Lapse 0 8 json claims := by
    rintro (⟨-, early⟩ | ⟨beyond, -, -⟩)
    · exact early mature
    · exact absurd beyond (by decide)
  obtain ⟨-, agree, -⟩ := accepted_iff_inWindow_iff_not_lapse built valid 8
  exact ⟨json, claims, built, valid, within, (agree.mpr sound).mpr within⟩

/-- A token is accepted before it says that it is valid, and refused within its time for a leeway
beyond the instant, where it was accepted without any. -/
theorem accepted_before8_expired_wideLeeway :
    ∃ json claims, Verifier.ofConfig (.ofList []) (secretConfig 0) = .ok (secretVerifier 0) ∧
      OtherwiseValid (secretVerifier 0) tokenFrom8Until9 json claims ∧
      (secretVerifier 0).verify 5 tokenFrom8Until9 = .ok claims ∧ ¬ InWindow 0 5 json claims ∧
      (secretVerifier 0).verify 8 tokenFrom8Until9 = .ok claims ∧
      Verifier.ofConfig (.ofList []) { secretConfig 0 with leeway := 9 } = .ok (secretVerifier 9) ∧
      (secretVerifier 9).verify 8 tokenFrom8Until9 = .error .expired ∧
      InWindow 9 8 json claims := by
  obtain ⟨json, claims, valid, begins, ends⟩ := otherwiseValid_tokenFrom8Until9 0
  have longer : OtherwiseValid (secretVerifier 9) tokenFrom8Until9 json claims := valid.withLeeway 9
  have verdict {leeway : UInt64}
      (valid : OtherwiseValid (secretVerifier leeway) tokenFrom8Until9 json claims) (now : UInt64) : (secretVerifier leeway).verify now tokenFrom8Until9 =
        if (secretVerifier leeway).isExpired now 9 then .error .expired else .ok claims := by
    rw [valid.verify_eq, ends]
  have early : ¬ InWindow 0 5 json claims := by
    rintro ⟨-, mature⟩
    have begun := mature 8 (by rw [begins]; exact List.mem_singleton_self 8)
    exact absurd begun (by decide +kernel)
  have within : InWindow 9 8 json claims := by
    refine ⟨by rw [ends]; decide, fun start member => ?_⟩
    rw [begins, List.mem_singleton] at member
    rw [member]
    decide +kernel
  exact ⟨json, claims, rfl, valid, verdict valid 5, early, verdict valid 8, rfl,
    verdict longer 8, within⟩

end Token
end UploadInbox
