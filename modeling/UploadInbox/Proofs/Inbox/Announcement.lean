import UploadInbox.Proofs.Inbox.Confinement

/-!
# What is announced about a stored object

The answer of the store to an admitted request ends an upload by its status, its method and one
parameter name. Then the object is looked up under the key that it was stored under, and its event
is handed over with what was found. `Outcome` says how an announcement can end. In one way a
finished upload is not even looked up: what follows the segment of its user is no text.
-/
namespace UploadInbox

namespace Completion

variable {facts : FactSource} {sink : EventSink} {path user : Text}

def eventOf (user key : Text) (object : ObjectFacts) : UploadEvent :=
  .ofUpload user ('/' :: key) object.size object.tag

/-- How the announcement of an object of a user can end. -/
inductive Outcome (facts : FactSource) (sink : EventSink) (path user : Text) :
    Announcement → Prop where
  | unnamed {e : Error} (unnamed : Namespace.objectKey path = .error e) :
    Outcome facts sink path user ⟨.error e, [], []⟩
  | unknown {key : Text} (named : Namespace.objectKey path = .ok key) {e : Error}
      (unknown : facts key = .error e) :
    Outcome facts sink path user ⟨.error e, [key], []⟩
  | undelivered {key : Text} (named : Namespace.objectKey path = .ok key) {object : ObjectFacts}
      (found : facts key = .ok object) {e : Error}
      (refused : sink (eventOf user key object) = .error e) :
    Outcome facts sink path user ⟨.error e, [key], [eventOf user key object]⟩
  | delivered {key : Text} (named : Namespace.objectKey path = .ok key) {object : ObjectFacts}
      (found : facts key = .ok object) (taken : sink (eventOf user key object) = .ok ()) :
    Outcome facts sink path user
      ⟨.ok (eventOf user key object), [key], [eventOf user key object]⟩

/-- An announcement ends in one of these ways. -/
theorem outcome_announce (owned : Namespace.user path = .ok user) :
    Outcome facts sink path user (announce facts sink path) := by
  unfold announce
  rw [owned]
  cases named : Namespace.objectKey path with
  | error e => exact .unnamed named
  | ok key =>
    dsimp only
    cases found : facts key with
    | error e => exact .unknown named found
    | ok object =>
      dsimp only
      cases taken : sink (UploadEvent.ofUpload user ('/' :: key) object.size object.tag) with
      | error e => exact .undelivered named found taken
      | ok => exact .delivered named found taken

variable {announcement : Announcement} (outcome : Outcome facts sink path user announcement)
include outcome

/-- An object that has a key is looked up. -/
theorem Outcome.lookups_of_named {key : Text} (named : Namespace.objectKey path = .ok key) :
    announcement.lookups = [key] := by
  cases outcome with
  | unnamed unnamed => cases unnamed.symm.trans named
  | unknown named' | undelivered named' | delivered named' =>
    cases named'.symm.trans named
    rfl

theorem Outcome.of_unnamed {e : Error} (unnamed : Namespace.objectKey path = .error e) :
    announcement = ⟨.error e, [], []⟩ := by
  cases outcome with
  | unnamed unnamed' =>
    cases unnamed'.symm.trans unnamed
    rfl
  | unknown named | undelivered named | delivered named => cases unnamed.symm.trans named

/-- What was found about an object is handed over. -/
theorem Outcome.deliveries_of_found {key : Text} (named : Namespace.objectKey path = .ok key)
    {object : ObjectFacts} (found : facts key = .ok object) :
    announcement.deliveries = [eventOf user key object] := by
  cases outcome with
  | unnamed unnamed => cases unnamed.symm.trans named
  | unknown named' unknown =>
    cases named'.symm.trans named
    cases unknown.symm.trans found
  | undelivered named' found' | delivered named' found' =>
    cases named'.symm.trans named
    cases found'.symm.trans found
    rfl

end Completion

namespace Inbox

open Completion (Outcome)
open Route (Writes)

/-- An answer with this status means that a request stored a whole object. -/
def Ends (request : Request) (status : Nat) : Prop :=
  (200 ≤ status ∧ status < 300) ∧
    (request.method = .put ∧ Query.has "partNumber" request.query = false ∨
      request.method = .post ∧ Query.has "uploadId" request.query = true)

variable {inbox : Inbox} {request : Request} {user : Text} {target : Target} {status : Nat}

theorem isUpload_iff :
    Completion.isUpload request.method request.query status = true ↔ Ends request status := by
  unfold Completion.isUpload Completion.isSuccess Ends
  cases request.method <;> simp

theorem Ends.writes (ends : Ends request status) : Writes request.method := by
  rcases ends.2 with ⟨put, -⟩ | ⟨post, -⟩
  · exact .inl put
  · exact .inr (.inl post)

/-- What is known of a request when it is admitted. -/
def admittedContext (request : Request) (user : Text) (target : Target) (context : Context) :
    Context :=
  { identified request user context with target := some target }

/-- What is known of an admitted request when the store has answered. -/
def answeredContext (request : Request) (user : Text) (target : Target) (status : Nat)
    (context : Context) : Context :=
  { admittedContext request user target context with storeStatus := some status }

/-- Whether an upload ends is told from what the request line said. -/
theorem endsUpload_answeredContext (context : Context) :
    endsUpload (answeredContext request user target status context) status = true ↔
      Ends request status := by
  have alike : Completion.isUpload request.method (Query.nonEmpty? request.query) status =
      Completion.isUpload request.method request.query status := by
    simp only [Completion.isUpload, Query.has_nonEmpty?]
  have method : Method.ofName? (answeredContext request user target status context).method =
      some request.method := Method.ofName?_name request.method
  rw [← isUpload_iff, ← alike]
  unfold endsUpload
  rw [method]
  rfl

/-- The answer of the store, after which an announcement was made. -/
def announced (known : Context) (announcement : Completion.Announcement) : StoreAnswered :=
  ⟨announcement.result.toOption, known, announcement.lookups, announcement.deliveries,
    [announcementRecord known announcement.result]⟩

theorem storeAnswered_of_ends (ends : Ends request status) (context : Context) :
    inbox.storeAnswered status (admittedContext request user target context) =
      announced (answeredContext request user target status context)
        (Completion.announce inbox.facts inbox.sink request.path) :=
  if_pos ((endsUpload_answeredContext context).mpr ends)

theorem storeAnswered_of_not_ends (other : ¬ Ends request status) (context : Context) :
    inbox.storeAnswered status (admittedContext request user target context) =
      ⟨none, answeredContext request user target status context, [], [], []⟩ :=
  if_neg fun ends => other ((endsUpload_answeredContext context).mp ends)

theorem Admissible.outcome (admissible : Admissible inbox request user target) :
    Outcome inbox.facts inbox.sink request.path user
      (Completion.announce inbox.facts inbox.sink request.path) :=
  Completion.outcome_announce admissible.named

/-! ## Under which key -/

/-- The path of a target, decoded, is that of the object's key in the bucket. -/
theorem Admissible.decode_target (admissible : Admissible inbox request user target)
    (writes : Writes request.method) (plain : '%' ∉ inbox.bucket) {key : Text}
    (named : Namespace.objectKey request.path = .ok key) :
    Percent.decode? target.path = some ('/' :: inbox.bucket ++ '/' :: key) := by
  obtain ⟨segment, rest, names, object, rfl⟩ := admissible.stored writes
  rw [names.objectKey object] at named
  cases decoded : Percent.decode? rest with
  | none =>
    rw [decoded] at named
    cases named
  | some name =>
    rw [decoded] at named
    cases named
    -- No escape goes across a slash, so that the parts of the path are decoded one by one.
    have joint (before after : Text) : Percent.octets (before ++ '/' :: after) =
        Percent.octets before ++ 0x2F :: Percent.octets after :=
      Percent.octets_append_cons (by decide) (by decide) (by decide) before after
    have bucket : Percent.octets ('/' :: inbox.bucket) = Utf8.encode ('/' :: inbox.bucket) :=
      Percent.octets_of_not_mem (by simp [plain])
    have slash (t : Text) : Utf8.encode ('/' :: t) = 0x2F :: Utf8.encode t := rfl
    rw [Percent.decode?_eq_some, joint, joint, bucket, Percent.decode?_eq_some.mp names.decoded,
      Percent.decode?_eq_some.mp decoded]
    simp only [Utf8.encode_append, slash, List.append_assoc, List.cons_append]

/-! ## What is looked up and handed over -/

/-- What the answer of the store to the request of a user leads to, given what was known of the
request. -/
structure Announces (inbox : Inbox) (request : Request) (user : Text) (target : Target)
    (status : Nat) (known : Context) (answered : StoreAnswered) : Prop where
  /-- One object is looked up at most, at the end of an upload, and by the key under which the
  store has it. -/
  lookups : answered.lookups = [] ∨ ∃ key, answered.lookups = [key] ∧ Ends request status ∧
    Percent.decode? target.path = some ('/' :: inbox.bucket ++ '/' :: key)
  /-- One event is handed over at most, with what was found of the object and nothing else. -/
  deliveries : answered.deliveries = [] ∨ ∃ key object event, answered.lookups = [key] ∧
    inbox.facts key = .ok object ∧ answered.deliveries = [event] ∧
    event.operation = UploadEvent.uploadOperation ∧ event.user = user ∧
    event.filepath = '/' :: key ∧ event.filesize = object.size ∧
    event.checksum = ⟨UploadEvent.tagKind, object.tag⟩
  /-- Whatever can be looked up is, and whatever was found is announced. -/
  complete : Ends request status → ∀ key, Namespace.objectKey request.path = .ok key →
    answered.lookups = [key] ∧
      ∀ object, inbox.facts key = .ok object →
        answered.deliveries = [Completion.eventOf user key object]
  /-- An event counts when it was taken. -/
  event : ∀ event, answered.event = some event ↔
    answered.deliveries = [event] ∧ inbox.sink event = .ok ()
  context : answered.context = { known with storeStatus := some status }

theorem Admissible.announces (admissible : Admissible inbox request user target)
    (plain : '%' ∉ inbox.bucket) (status : Nat) (context : Context) :
    Announces inbox request user target status (admittedContext request user target context)
      (inbox.storeAnswered status (admittedContext request user target context)) := by
  by_cases ends : Ends request status
  · rw [storeAnswered_of_ends ends]
    have stored {key : Text} (named : Namespace.objectKey request.path = .ok key) :=
      admissible.decode_target ends.writes plain named
    have outcome := admissible.outcome
    generalize Completion.announce inbox.facts inbox.sink request.path = announcement at outcome ⊢
    have complete : ∀ key, Namespace.objectKey request.path = .ok key →
        announcement.lookups = [key] ∧ ∀ object, inbox.facts key = .ok object →
          announcement.deliveries = [Completion.eventOf user key object] :=
      fun key named => ⟨outcome.lookups_of_named named, fun object =>
        outcome.deliveries_of_found named⟩
    cases outcome with
    | unnamed unnamed =>
      refine ⟨.inl rfl, .inl rfl, fun _ => complete, ?_, rfl⟩
      simp [announced, Except.toOption]
    | unknown named unknown =>
      refine ⟨.inr ⟨_, rfl, ends, stored named⟩, .inl rfl, fun _ => complete, ?_, rfl⟩
      simp [announced, Except.toOption]
    | undelivered named found refused =>
      refine ⟨.inr ⟨_, rfl, ends, stored named⟩,
        .inr ⟨_, _, _, rfl, found, rfl, rfl, rfl, rfl, rfl, rfl⟩, fun _ => complete, ?_, rfl⟩
      simp [announced, Except.toOption, refused]
    | delivered named found taken =>
      refine ⟨.inr ⟨_, rfl, ends, stored named⟩,
        .inr ⟨_, _, _, rfl, found, rfl, rfl, rfl, rfl, rfl, rfl⟩, fun _ => complete, ?_, rfl⟩
      simp [announced, Except.toOption, taken]
  · rw [storeAnswered_of_not_ends ends]
    exact ⟨.inl rfl, .inl rfl, fun ended => absurd ended ends, by simp, rfl⟩

theorem known_of_admitted {context : Context}
    (admitted : (inbox.examine request context).result = .ok ()) :
    ∃ user target, Admissible inbox request user target ∧
      (inbox.examine request context).context = admittedContext request user target context := by
  have ended := examined_examine inbox request context
  rw [admitted] at ended
  exact ended.admissible

/-- What the answer to an admitted request leads to: at most the event of the object that it stored,
with what the store itself says of that. -/
theorem announces_of_admitted {context : Context} (plain : '%' ∉ inbox.bucket)
    (admitted : (inbox.examine request context).result = .ok ()) (status : Nat) :
    ∃ user target, (inbox.examine request context).context.user = some user ∧
      (inbox.examine request context).context.target = some target ∧
      Announces inbox request user target status (inbox.examine request context).context
        (inbox.storeAnswered status (inbox.examine request context).context) := by
  obtain ⟨user, target, admissible, known⟩ := known_of_admitted admitted
  rw [known]
  exact ⟨user, target, rfl, rfl, admissible.announces plain status context⟩

/-- An inbox whose store knows every object and whose broker takes every event. -/
def announcing (bucket : Text) : Inbox :=
  { openTo bucket with facts := fun _ => .ok ⟨5, "5d41402a"⟩, sink := fun _ => .ok () }

/-- Doubled slashes and a percent sign that begins no escape stay in the key. -/
theorem announces_storing :
    ∃ target, Announces (announcing "inbox") (storing "//al%20ice//run%201/%4z") "al ice" target 201
        ((announcing "inbox").examine (storing "//al%20ice//run%201/%4z") (.initial "1")).context
        ((announcing "inbox").storeAnswered 201
          ((announcing "inbox").examine (storing "//al%20ice//run%201/%4z")
            (.initial "1")).context) ∧
      Percent.decode? target.path = some "/inbox/al ice//run 1/%4z" := by
  have admitted : ((announcing "inbox").examine (storing "//al%20ice//run%201/%4z")
      (.initial "1")).result = .ok () := rfl
  obtain ⟨user, target, named, placed, announces⟩ :=
    announces_of_admitted (by decide) admitted 201
  cases (show some ("al ice" : Text) = some user from named)
  cases (show some ⟨"/inbox/al%20ice//run%201/%4z", none⟩ = some target from placed)
  exact ⟨_, announces, by decide +kernel⟩

/-! ## Whether anything is looked up -/

/-- At the end of an upload the user is known and an object is named, and it is looked up just when
what names it is a text. Otherwise nothing is looked up nor announced. -/
theorem lookedUp_iff_legible {context : Context}
    (admitted : (inbox.examine request context).result = .ok ())
    (finished : Completion.isUpload request.method request.query status = true) :
    ∃ user segment rest, Namespace.user request.path = .ok user ∧
      Namespace.split? request.path = some (segment, rest) ∧ rest ≠ [] ∧
      ((∃ key, Namespace.objectKey request.path = .ok key ∧
          (inbox.storeAnswered status (inbox.examine request context).context).lookups = [key]) ↔
        ∃ name, Percent.decode? rest = some name) ∧
      (Percent.decode? rest = none →
        inbox.storeAnswered status (inbox.examine request context).context =
          ⟨none, { (inbox.examine request context).context with storeStatus := some status }, [], [],
            [announcementRecord (inbox.examine request context).context
              (.error (Namespace.illegibleObject rest))]⟩) := by
  obtain ⟨user, target, admissible, known⟩ := known_of_admitted admitted
  have ends := isUpload_iff.mp finished
  obtain ⟨segment, rest, names, object, -⟩ := admissible.stored ends.writes
  have key := names.objectKey object
  have outcome := admissible.outcome
  rw [known, storeAnswered_of_ends ends]
  refine ⟨user, segment, rest, admissible.named, names.split, object, ?_, ?_⟩
  · constructor
    · rintro ⟨key', named, -⟩
      cases decoded : Percent.decode? rest with
      | none =>
        rw [decoded] at key
        cases key.symm.trans named
      | some name => exact ⟨name, rfl⟩
    · rintro ⟨name, decoded⟩
      rw [decoded] at key
      exact ⟨_, key, outcome.lookups_of_named key⟩
  · intro illegible
    rw [illegible] at key
    rw [outcome.of_unnamed key]
    rfl

/-- What follows the user is a text, though not all of it is written as such. -/
theorem lookedUp_storing :
    ∃ key, Namespace.objectKey "/alice/r%C3%A9sum%C3%A9.pdf" = .ok key ∧
      ((announcing "inbox").storeAnswered 200
        ((announcing "inbox").examine (storing "/alice/r%C3%A9sum%C3%A9.pdf")
          (.initial "1")).context).lookups = [key] := by
  have admitted : ((announcing "inbox").examine (storing "/alice/r%C3%A9sum%C3%A9.pdf")
      (.initial "1")).result = .ok () := rfl
  have finished : Completion.isUpload (storing "/alice/r%C3%A9sum%C3%A9.pdf").method
      (storing "/alice/r%C3%A9sum%C3%A9.pdf").query 200 = true := rfl
  obtain ⟨user, segment, rest, -, split, -, legible, -⟩ := lookedUp_iff_legible admitted finished
  cases (show some (("alice" : Text), ("r%C3%A9sum%C3%A9.pdf" : Text)) = some (segment, rest)
    from split)
  exact legible.mpr ⟨"résumé.pdf", by decide +kernel⟩

/-- An upload under a name that is no text is finished, and nothing is looked up for it. -/
theorem not_lookedUp_storing :
    ((announcing "inbox").examine (storing "/alice/%FF") (.initial "1")).result = .ok () ∧
      Completion.isUpload (storing "/alice/%FF").method (storing "/alice/%FF").query 200 = true ∧
      Namespace.objectKey "/alice/%FF" = .error (Namespace.illegibleObject "%FF") ∧
      ((announcing "inbox").storeAnswered 200
        ((announcing "inbox").examine (storing "/alice/%FF") (.initial "1")).context).lookups = [] :=
  ⟨rfl, rfl, rfl, rfl⟩

end Inbox
end UploadInbox
