import UploadInbox.Proofs.Config.References
import UploadInbox.Proofs.Yaml.Rows

/-!
# Comments in a configuration

References are replaced before anything is read as a document, in comments as well. So a comment is
without effect on a configuration as long as all it refers to has a text for a value and nothing is
put in that may not stand in a document; otherwise a text that is a configuration is none with the
comment in it.
-/
namespace UploadInbox

open Yaml (IsMapping Meets commentLine isAllowed isRemark lines)

namespace Environment

variable {env : Environment} {above below comment : Text}

theorem outside_of_ending {c : Char} (ends : (Yaml.ending? c).isSome = true) :
    c ≠ '$' ∧ isInside c = false := by
  have numbered {n : Nat} (valid : (Char.ofNat n).toNat = n) (same : c.toNat = n) :
      c = Char.ofNat n :=
    Char.toNat_inj.mp (same.trans valid.symm)
  unfold Yaml.ending? at ends
  split at ends
  next first =>
    rcases first with rfl | rfl | next_line
    · exact ⟨by decide, by decide⟩
    · exact ⟨by decide, by decide⟩
    · rw [numbered rfl next_line]
      exact ⟨by decide, by decide⟩
  next =>
    split at ends
    next first =>
      rcases first with line | paragraph
      · rw [numbered rfl line]
        exact ⟨by decide, by decide⟩
      · rw [numbered rfl paragraph]
        exact ⟨by decide, by decide⟩
    next => cases ends

/-- What stands above a line is read for itself. -/
theorem parts_append_of_meets {rest : Text} (meets : Meets above rest) (below : Text) :
    parts (above ++ below) = parts above ++ parts below := by
  cases last : above.getLast? with
  | none =>
    rw [List.getLast?_eq_none_iff] at last
    rw [last]
    rfl
  | some c =>
    obtain ⟨before, rfl⟩ := List.getLast?_eq_some_iff.mp last
    obtain ⟨other, outside⟩ := outside_of_ending (meets c last).1
    exact parts_append_of_last before below other outside

theorem parts_commentLine (comment : Text) :
    parts (commentLine comment) = .char '#' :: (parts comment ++ [.char '\n']) := by
  rw [commentLine, parts_cons_of_ne (by decide), parts_append comment (by rintro _ ⟨⟩; decide)]
  rfl

theorem supplies_commentLine : Supplies env (commentLine comment) ↔ Supplies env comment := by
  simp [Supplies, mem_names_iff, parts_commentLine]

theorem expand_commentLine (env : Environment) (comment : Text) :
    env.expand (commentLine comment) = commentLine (env.expand comment) := by
  rw [expand, parts_commentLine, List.flatMap_cons, List.flatMap_append]
  rfl

theorem meets_expand (meets : Meets above (env.expand below)) :
    Meets (env.expand above) (env.expand below) := by
  intro c last
  cases first : above.getLast? with
  | none =>
    rw [List.getLast?_eq_none_iff] at first
    rw [first] at last
    cases last
  | some d =>
    obtain ⟨before, rfl⟩ := List.getLast?_eq_some_iff.mp first
    obtain ⟨other, outside⟩ := outside_of_ending (meets d first).1
    have alone : env.expand [d] = [d] := by
      rw [expand, parts_cons_of_ne other]
      rfl
    rw [expand_append env (parts_append before (by rintro _ ⟨⟩; exact outside)), alone,
      List.getLast?_concat] at last
    cases last
    exact meets c first

/-- A comment adds what it refers to, and nothing else. -/
theorem supplies_insert {rest : Text} (meets : Meets above rest) :
    Supplies env (above ++ (commentLine comment ++ below)) ↔
      Supplies env (above ++ below) ∧ Supplies env comment := by
  have apart_comment := parts_append_of_meets (Yaml.meets_commentLine comment below) below
  rw [supplies_append (parts_append_of_meets meets _), supplies_append apart_comment,
    supplies_append (parts_append_of_meets meets _), supplies_commentLine]
  exact ⟨fun ⟨a, c, b⟩ => ⟨⟨a, b⟩, c⟩, fun ⟨⟨a, b⟩, c⟩ => ⟨a, c, b⟩⟩

/-- References are replaced in a comment as if nothing stood around it. -/
theorem expand_insert {rest : Text} (meets : Meets above rest) :
    env.expand (above ++ (commentLine comment ++ below)) =
      env.expand above ++ (commentLine (env.expand comment) ++ env.expand below) := by
  have apart_comment := parts_append_of_meets (Yaml.meets_commentLine comment below) below
  rw [expand_append env (parts_append_of_meets meets _), expand_append env apart_comment,
    expand_commentLine]

end Environment

namespace Config

open Environment

variable {env : Environment} {above below comment : Text}

/-- Two results are the same configuration, or there is none in both. -/
def SameOutcome (a b : Except Error Config) : Prop := a.toOption = b.toOption

/-- How a comment keeps a text from being a configuration. -/
inductive Disturbs (env : Environment) (t comment : Text) : Prop where
  /-- It refers to a variable without a text for a value. -/
  | unset {config : Config} {name : Text} (loads : ofText env t = .ok config)
    (refers : name ∈ names comment) (absent : env.value? name = none)
  /-- Something that may not stand in a document is written in it or put into it. -/
  | forbidden {config : Config} {c : Char} (loads : ofText env t = .ok config)
    (member : c ∈ env.expand comment) (forbidden : isAllowed c = false)

theorem Disturbs.loads {t : Text} (disturbs : Disturbs env t comment) :
    ∃ config, ofText env t = .ok config := by
  cases disturbs with
  | unset loads => exact ⟨_, loads⟩
  | forbidden loads => exact ⟨_, loads⟩

theorem not_disturbs {t : Text} (supplies : Supplies env comment)
    (allowed : (env.expand comment).all isAllowed = true) : ¬ Disturbs env t comment := by
  intro disturbs
  cases disturbs with
  | unset loads refers absent =>
    have present := supplies _ refers
    rw [absent] at present
    cases present
  | forbidden loads member forbidden =>
    rw [List.all_eq_true.mp allowed _ member] at forbidden
    cases forbidden

theorem toOption_eq_some_iff {result : Except Error Config} {config : Config} :
    result.toOption = some config ↔ result = .ok config := by
  cases result with
  | error e => exact ⟨nofun, nofun⟩
  | ok other => simp [Except.toOption]

/-- A text that fails with a comment in it is to fail without it. -/
theorem sameOutcome_none_iff {a b : Except Error Config} (fails : a.toOption = none) :
    SameOutcome a b ↔ ¬ ∃ config, b = .ok config := by
  rw [SameOutcome, fails]
  simp only [← toOption_eq_some_iff, ← Option.isSome_iff_exists, Bool.not_eq_true,
    Option.isSome_eq_false_iff, Option.isNone_iff_eq_none]
  exact eq_comm

theorem toOption_ofText_of_not_supplies {t : Text} (missing : ¬ Supplies env t) :
    (ofText env t).toOption = none := by
  rcases supplies_or_first env t with supplies | ⟨before, name, after, first, absent, present⟩
  · exact absurd supplies missing
  · rw [ofText_of_first first absent present]
    rfl

theorem toOption_ofDocument (t : Text) :
    (ofDocument t).toOption = (Yaml.Node.ofText? t).bind ofNode? := by
  unfold ofDocument
  split
  next config found => exact found.symm
  next missing => exact missing.symm

/-- A document of block mappings is the same configuration with a comment in it. -/
theorem toOption_ofDocument_insert (mapping : IsMapping (above ++ below))
    (meets : Meets above below)
    (all : ∀ line ∈ lines (commentLine comment), isRemark line.content = true) :
    (ofDocument (above ++ (commentLine comment ++ below))).toOption =
      if comment.all isAllowed then (ofDocument (above ++ below)).toOption else none := by
  rw [toOption_ofDocument, toOption_ofDocument, Yaml.ofText?_insert mapping meets all]
  split
  · rfl
  · rfl

/-- Where nothing is missing, a comment counts only for the characters that it has. -/
theorem toOption_ofText_insert (meets : Meets above (env.expand below))
    (mapping : IsMapping (env.expand (above ++ below)))
    (remarks : ∀ line ∈ lines (env.expand (commentLine comment)), isRemark line.content = true)
    (supplies : Supplies env (above ++ below)) (supplies_comment : Supplies env comment) :
    (ofText env (above ++ (commentLine comment ++ below))).toOption =
      if (env.expand comment).all isAllowed then (ofText env (above ++ below)).toOption
      else none := by
  have whole := expand_append env (parts_append_of_meets meets below)
  rw [whole] at mapping
  rw [expand_commentLine] at remarks
  rw [ofText_of_supplies ((supplies_insert meets).mpr ⟨supplies, supplies_comment⟩),
    ofText_of_supplies supplies, expand_insert meets, whole]
  exact toOption_ofDocument_insert mapping (meets_expand meets) remarks

/-- Where the references of a text are replaced by what leaves it a document of block mappings, and
those of a comment by what leaves it a comment, the comment is without effect on the configuration
unless it refers to a variable without a text for a value, or has a character in it that no document
has. -/
theorem sameOutcome_iff_not_disturbs (env : Environment) (above below comment : Text)
    (meets : Meets above (env.expand below))
    (mapping : Supplies env (above ++ below) → IsMapping (env.expand (above ++ below)))
    (remarks : Supplies env comment →
      ∀ line ∈ lines (env.expand (commentLine comment)), isRemark line.content = true) :
    SameOutcome (ofText env (above ++ (commentLine comment ++ below)))
      (ofText env (above ++ below)) ↔ ¬ Disturbs env (above ++ below) comment := by
  by_cases supplies : Supplies env (above ++ below)
  · by_cases supplies_comment : Supplies env comment
    · have inserted := toOption_ofText_insert meets (mapping supplies) (remarks supplies_comment)
        supplies supplies_comment
      by_cases allowed : (env.expand comment).all isAllowed = true
      · rw [if_pos allowed] at inserted
        exact iff_of_true inserted (not_disturbs supplies_comment allowed)
      · rw [if_neg allowed] at inserted
        obtain ⟨c, member, forbidden⟩ : ∃ c ∈ env.expand comment, isAllowed c = false := by
          simpa using allowed
        rw [sameOutcome_none_iff inserted]
        exact not_congr ⟨fun ⟨_, loads⟩ => .forbidden loads member forbidden, Disturbs.loads⟩
    · have missing : ¬ Supplies env (above ++ (commentLine comment ++ below)) :=
        fun both => supplies_comment ((supplies_insert meets).mp both).2
      obtain ⟨name, refers, absent⟩ : ∃ name ∈ names comment, env.value? name = none := by
        simpa [Supplies] using supplies_comment
      rw [sameOutcome_none_iff (toOption_ofText_of_not_supplies missing)]
      exact not_congr ⟨fun ⟨_, loads⟩ => .unset loads refers absent, Disturbs.loads⟩
  · have missing : ¬ Supplies env (above ++ (commentLine comment ++ below)) :=
      fun both => supplies ((supplies_insert meets).mp both).1
    have no_config : ¬ ∃ config, ofText env (above ++ below) = .ok config := by
      rintro ⟨config, loads⟩
      have fails := toOption_ofText_of_not_supplies supplies
      rw [loads] at fails
      cases fails
    rw [sameOutcome_none_iff (toOption_ofText_of_not_supplies missing)]
    exact iff_of_true no_config fun disturbs => no_config disturbs.loads

/-! ## Comments in a file of settings -/

def settingsAbove : Text := "backend:\n  url: http://store:9000" ++ ['\n']

def settingsBelow : Text :=
  "  access_key: access\n  secret_key: '$\x7bKEY\x7d'\n  bucket: inbox\n"
    ++ "broker:\n  host: mq\n  user: guest\n  password: \"guest\"\n  exchange: sda\n"
    ++ "  routing_key: inbox\n"

/-- The settings line by line, with a given key. -/
def settingsRows (key : Text) : List Yaml.Row :=
  let opening (name : Text) : Yaml.Row := .member ⟨0, .plain name, [], none, [], none⟩
  let setting (name : Text) (value : Yaml.Scalar) : Yaml.Row :=
    .member ⟨2, .plain name, [], some ([' '], value), [], none⟩
  [opening "backend", setting "url" (.plain "http://store:9000"),
    setting "access_key" (.plain "access"), setting "secret_key" (.single key),
    setting "bucket" (.plain "inbox"), opening "broker", setting "host" (.plain "mq"),
    setting "user" (.plain "guest"), setting "password" (.double "guest"),
    setting "exchange" (.plain "sda"), setting "routing_key" (.plain "inbox"), .remark []]

def keyed : Environment := .ofTexts [("KEY", "secret")]

theorem isMapping_settings : IsMapping (settingsAbove ++ settingsBelow) :=
  ⟨⟨settingsRows "$\x7bKEY\x7d", by decide +kernel, by decide +kernel⟩, by decide⟩

theorem isMapping_expand_settings : IsMapping (keyed.expand (settingsAbove ++ settingsBelow)) :=
  ⟨⟨settingsRows "secret", by decide +kernel, by decide +kernel⟩, by decide +kernel⟩

theorem ofText_settings :
    ofText keyed (settingsAbove ++ settingsBelow) = .ok {
      server := .standard
      backend := ⟨"http://store:9000", "access", "secret", "inbox", "us-east-1", none, 30⟩
      broker := ⟨"mq", 5672, "guest", "guest", "/", "sda", "inbox", false, none, 30⟩
      auth := .standard } := by
  rw [← toOption_eq_some_iff]
  decide +kernel

/-- A comment that refers to a variable which is set has no effect. -/
theorem sameOutcome_keyed :
    Supplies keyed (settingsAbove ++ settingsBelow) ∧
    SameOutcome
      (ofText keyed (settingsAbove ++ (commentLine " $\x7bKEY\x7d: see #7" ++ settingsBelow)))
      (ofText keyed (settingsAbove ++ settingsBelow)) := by
  have remarks : ∀ line ∈ lines (keyed.expand (commentLine " $\x7bKEY\x7d: see #7")),
      isRemark line.content = true := by
    rw [expand_commentLine]
    exact Yaml.isRemark_of_no_ending (by decide)
  exact ⟨by decide +kernel, (sameOutcome_iff_not_disturbs keyed settingsAbove settingsBelow
    " $\x7bKEY\x7d: see #7" (Yaml.meets_feed _ _) (fun _ => isMapping_expand_settings)
    fun _ => remarks).mpr (not_disturbs (by decide) (by decide))⟩

/-- A comment on one line that explains a reference keeps the same settings from being read. -/
theorem not_sameOutcome_explained :
    IsMapping (settingsAbove ++ settingsBelow) ∧ Meets settingsAbove settingsBelow ∧
    ((" $\x7bVAR\x7d is replaced" : Text).all fun c => (Yaml.ending? c).isNone) = true ∧
    ofText keyed (settingsAbove ++ (commentLine " $\x7bVAR\x7d is replaced" ++ settingsBelow)) =
      .error (unset "VAR") ∧
    ¬ SameOutcome
      (ofText keyed (settingsAbove ++ (commentLine " $\x7bVAR\x7d is replaced" ++ settingsBelow)))
      (ofText keyed (settingsAbove ++ settingsBelow)) := by
  have first : parts (settingsAbove ++
      (commentLine " $\x7bVAR\x7d is replaced" ++ settingsBelow)) =
      (settingsAbove ++ "# ").map .char ++
        .reference "VAR" :: parts (" is replaced\n" ++ settingsBelow) := by
    decide +kernel
  have fails : ofText keyed (settingsAbove ++
      (commentLine " $\x7bVAR\x7d is replaced" ++ settingsBelow)) = .error (unset "VAR") :=
    ofText_of_first first rfl (by simp)
  refine ⟨isMapping_settings, Yaml.meets_feed _ _, by decide, fails, ?_⟩
  rw [SameOutcome, fails, ofText_settings]
  nofun

end Config
end UploadInbox
