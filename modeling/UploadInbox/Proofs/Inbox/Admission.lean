import UploadInbox.Inbox.Passage
import UploadInbox.Proofs.Operation
import UploadInbox.Proofs.Route.Rules

/-!
# The order of admission

Six checks decide on a request. `Examined` says how they can end, one way for each check that can
fail and one for a request that passes them all, and what is known and done in the end; every fact
about admission is read off it.
-/
namespace UploadInbox.Inbox

def operationOf (request : Request) : Operation :=
  Operation.classify request.method request.path request.query

/-- What is known of a request when its operation is. -/
def classified (request : Request) (context : Context) : Context :=
  { context.withLine request.method.name request.path request.query with
    operation := some (operationOf request) }

def identified (request : Request) (user : Text) (context : Context) : Context :=
  { classified request context with user := some user }

/-- Whether a request asks to copy an object of the store, under whatever case of the header. -/
def Copies (request : Request) : Prop :=
  ∃ field ∈ request.headers.fields, Text.lowerAscii field.1 = copySourceHeader

theorem has_copySourceHeader_iff {request : Request} :
    request.headers.has copySourceHeader = true ↔ Copies request := by
  rw [Headers.has, List.any_eq_true, Copies]
  constructor
  · rintro ⟨field, member, same⟩
    refine ⟨field, member, ?_⟩
    rw [Headers.lowerAscii_of_mem member]
    exact of_decide_eq_true same
  · rintro ⟨field, member, same⟩
    rw [Headers.lowerAscii_of_mem member] at same
    exact ⟨field, member, decide_eq_true same⟩

instance (request : Request) : Decidable (Copies request) :=
  decidable_of_iff _ has_copySourceHeader_iff

variable (inbox : Inbox) (request : Request)

/-- How the checks on a request can end, and what has been found out and done by then. -/
inductive Examined (start : Examination) : Except Error Unit → Examination → Prop where
  | denied (refused : (operationOf request).isAllowed = false) :
    Examined start (.error (.policyDenied (operationOf request).name))
      { start with context := classified request start.context }
  | copies (allowed : (operationOf request).isAllowed = true) (copies : Copies request) :
    Examined start (.error (.policyDenied "server-side copy"))
      { start with context := classified request start.context }
  | unnamed (allowed : (operationOf request).isAllowed = true) (original : ¬ Copies request)
      {e : Error} (unnamed : Namespace.user request.path = .error e) :
    Examined start (.error e) { start with context := classified request start.context }
  | unauthenticated (allowed : (operationOf request).isAllowed = true)
      (original : ¬ Copies request) {user : Text} (named : Namespace.user request.path = .ok user)
      {e : Error} (refused : inbox.authenticate request = .error e) :
    Examined start (.error e)
      { start with
        context := identified request user start.context, asked := start.asked ++ [request] }
  | unmeasured (allowed : (operationOf request).isAllowed = true)
      (original : ¬ Copies request) {user : Text} (named : Namespace.user request.path = .ok user)
      (authentic : inbox.authenticate request = .ok ()) {e : Error}
      (unmeasured : Forwarding.contentLength request = .error e) :
    Examined start (.error e)
      { start with
        context := identified request user start.context, asked := start.asked ++ [request] }
  | unplaced (allowed : (operationOf request).isAllowed = true)
      (original : ¬ Copies request) {user : Text} (named : Namespace.user request.path = .ok user)
      (authentic : inbox.authenticate request = .ok ()) {length : Option UInt64}
      (measured : Forwarding.contentLength request = .ok length) {e : Error}
      (unplaced : Route.target request.method request.path request.query inbox.bucket user =
        .error e) :
    Examined start (.error e)
      { start with
        context := identified request user start.context, asked := start.asked ++ [request] }
  | admitted (allowed : (operationOf request).isAllowed = true)
      (original : ¬ Copies request) {user : Text} (named : Namespace.user request.path = .ok user)
      (authentic : inbox.authenticate request = .ok ()) {length : Option UInt64}
      (measured : Forwarding.contentLength request = .ok length) {target : Target}
      (placed : Route.target request.method request.path request.query inbox.bucket user =
        .ok target) :
    Examined start (.ok ())
      { context := { identified request user start.context with target := some target }
        asked := start.asked ++ [request]
        records := start.records ++ [admittedRecord user (operationOf request) target] }

/-- The checks end in one of these ways. -/
theorem examined_check (start : Examination) :
    Examined inbox request start ((inbox.check request).outcome start).1
      ((inbox.check request).outcome start).2 := by
  have operation : Operation.classify request.method request.path (Query.nonEmpty? request.query) =
      operationOf request := Operation.classify_nonEmpty? _ _ _
  unfold check
  simp only [Attempt.outcome_bind, Examination.learn, Attempt.outcome_modify, Attempt.outcome_get,
    Context.withLine, operation]
  cases allowed : (operationOf request).isAllowed with
  | false =>
    simp only [Bool.not_false, if_true, Attempt.outcome_bind, Attempt.outcome_throw]
    exact .denied allowed
  | true =>
    simp only [Bool.not_true, Bool.false_eq_true, if_false]
    cases copies : request.headers.has copySourceHeader with
    | true =>
      simp only [if_true, Attempt.outcome_bind, Attempt.outcome_throw]
      exact .copies allowed (has_copySourceHeader_iff.mp copies)
    | false =>
      have original : ¬ Copies request := by
        rw [← has_copySourceHeader_iff, copies]
        exact Bool.false_ne_true
      simp only [Bool.false_eq_true, if_false, Attempt.outcome_bind, Attempt.outcome_liftM]
      cases named : Namespace.user request.path with
      | error e => exact .unnamed allowed original named
      | ok user =>
        simp only [Examination.ask, Attempt.outcome_bind, Attempt.outcome_modify,
          Attempt.outcome_liftM]
        cases authentic : inbox.authenticate request with
        | error e => exact .unauthenticated allowed original named authentic
        | ok =>
          cases measured : Forwarding.contentLength request with
          | error e => exact .unmeasured allowed original named authentic measured
          | ok length =>
            simp only [Route.target_nonEmpty?]
            cases placed :
              Route.target request.method request.path request.query inbox.bucket user with
            | error e => exact .unplaced allowed original named authentic measured placed
            | ok target => exact .admitted allowed original named authentic measured placed

/-! ## The checks one by one -/

/-- The first failure among checks, if one fails. -/
def firstFailure : List (Except Error Unit) → Except Error Unit
  | [] => .ok ()
  | .ok () :: later => firstFailure later
  | .error e :: _ => .error e

/-- The checks that come before the caller is authenticated, each by itself. -/
def earlyChecks : List (Except Error Unit) := [
  if (operationOf request).isAllowed then .ok ()
  else .error (.policyDenied (operationOf request).name),
  if Copies request then .error (.policyDenied "server-side copy") else .ok (),
  (Namespace.user request.path).map fun _ => ()]

def checks : List (Except Error Unit) := earlyChecks request ++ [
  inbox.authenticate request,
  (Forwarding.contentLength request).map fun _ => (),
  (Namespace.user request.path).bind fun user =>
    (Route.target request.method request.path request.query inbox.bucket user).map fun _ => ()]

/-- A request on behalf of a user that passes every check on its way to a target. -/
structure Admissible (user : Text) (target : Target) : Prop where
  allowed : (operationOf request).isAllowed = true
  original : ¬ Copies request
  named : Namespace.user request.path = .ok user
  authentic : inbox.authenticate request = .ok ()
  measured : ∃ length, Forwarding.contentLength request = .ok length
  placed : Route.target request.method request.path request.query inbox.bucket user = .ok target

variable {inbox request} {start examination : Examination} {result : Except Error Unit}

/-- The first check that fails decides. -/
theorem Examined.first (ended : Examined inbox request start result examination) :
    result = firstFailure (checks inbox request) := by
  cases ended with
  | denied refused =>
    rw [checks, earlyChecks, if_neg (Bool.eq_false_iff.mp refused)]
    rfl
  | copies allowed copies =>
    rw [checks, earlyChecks, if_pos allowed, if_pos copies]
    rfl
  | unnamed allowed original unnamed =>
    rw [checks, earlyChecks, if_pos allowed, if_neg original, unnamed]
    rfl
  | unauthenticated allowed original named refused =>
    rw [checks, earlyChecks, if_pos allowed, if_neg original, named, refused]
    rfl
  | unmeasured allowed original named authentic unmeasured =>
    rw [checks, earlyChecks, if_pos allowed, if_neg original, named, authentic, unmeasured]
    rfl
  | unplaced allowed original named authentic measured unplaced =>
    rw [checks, earlyChecks, if_pos allowed, if_neg original, named, authentic, measured,
      Except.bind, unplaced]
    rfl
  | admitted allowed original named authentic measured placed =>
    rw [checks, earlyChecks, if_pos allowed, if_neg original, named, authentic, measured,
      Except.bind, placed]
    rfl

theorem Examined.admissible (ended : Examined inbox request start (.ok ()) examination) :
    ∃ user target, Admissible inbox request user target ∧
      examination.context =
        { identified request user start.context with target := some target } := by
  cases ended with
  | admitted allowed original named authentic measured placed =>
    exact ⟨_, _, ⟨allowed, original, named, authentic, ⟨_, measured⟩, placed⟩, rfl⟩

theorem Admissible.first {user : Text} {target : Target}
    (admissible : Admissible inbox request user target) :
    firstFailure (checks inbox request) = .ok () := by
  obtain ⟨allowed, original, named, authentic, ⟨length, measured⟩, placed⟩ := admissible
  rw [checks, earlyChecks, if_pos allowed, if_neg original, named, authentic, measured,
    Except.bind, placed]
  rfl

/-- A request has one user and at most one target. -/
theorem Admissible.unique {user user' : Text} {target target' : Target}
    (admissible : Admissible inbox request user target)
    (admissible' : Admissible inbox request user' target') : user = user' ∧ target = target' := by
  have same : user = user' := by
    have named := admissible.named
    rw [admissible'.named] at named
    exact (Except.ok.inj named).symm
  subst same
  have placed := admissible.placed
  rw [admissible'.placed] at placed
  exact ⟨rfl, (Except.ok.inj placed).symm⟩

/-- A refused request keeps the target that it had, which is none for a new one. -/
theorem Examined.target_of_error {e : Error}
    (ended : Examined inbox request start (.error e) examination) :
    examination.context.target = start.context.target := by
  cases ended <;> rfl

/-- Either a check before the authenticator fails, and nothing but the request line is known, or the
authenticator is asked once. -/
theorem Examined.early (ended : Examined inbox request start result examination) :
    (∃ e, firstFailure (earlyChecks request) = .error e ∧ result = .error e ∧
      examination = { start with context := classified request start.context }) ∨
    firstFailure (earlyChecks request) = .ok () ∧
      examination.asked = start.asked ++ [request] := by
  cases ended with
  | denied refused =>
    refine .inl ⟨_, ?_, rfl, rfl⟩
    rw [earlyChecks, if_neg (Bool.eq_false_iff.mp refused)]
    rfl
  | copies allowed copies =>
    refine .inl ⟨_, ?_, rfl, rfl⟩
    rw [earlyChecks, if_pos allowed, if_pos copies]
    rfl
  | unnamed allowed original unnamed =>
    refine .inl ⟨_, ?_, rfl, rfl⟩
    rw [earlyChecks, if_pos allowed, if_neg original, unnamed]
    rfl
  | unauthenticated allowed original named | unmeasured allowed original named
  | unplaced allowed original named | admitted allowed original named =>
    refine .inr ⟨?_, rfl⟩
    rw [earlyChecks, if_pos allowed, if_neg original, named]
    rfl

/-- The examination of a request ends in one of these ways. -/
theorem examined_examine (inbox : Inbox) (request : Request) (context : Context) :
    Examined inbox request ⟨context, [], []⟩ (inbox.examine request context).result
      (inbox.examine request context).toExamination :=
  examined_check inbox request ⟨context, [], []⟩

/-- A request that fails before its caller is authenticated fails alike whoever authenticates. -/
theorem examine_of_early_error {e : Error} (context : Context)
    (early : firstFailure (earlyChecks request) = .error e) :
    inbox.examine request context = ⟨⟨classified request context, [], []⟩, .error e⟩ := by
  have ended := examined_examine inbox request context
  generalize inbox.examine request context = admission at ended
  obtain ⟨examination, result⟩ := admission
  rcases ended.early with ⟨e', early', refused, known⟩ | ⟨early', -⟩
  · cases early.symm.trans early'
    cases refused
    cases known
    rfl
  · cases early.symm.trans early'

/-- What becomes of a request when nothing is known of it but its line and nothing was answered. -/
structure Decision (inbox : Inbox) (request : Request) (context : Context) (admission : Admission)
    (filtered : Filtered) : Prop where
  /-- The first check that fails decides. -/
  first : admission.result = firstFailure (checks inbox request)
  admitted_iff : admission.result = .ok () ↔
    ∃ user target, Admissible inbox request user target
  /-- The authenticator is asked once, and only when no check before it fails. -/
  asked : firstFailure (earlyChecks request) = .ok () → admission.asked = [request]
  unasked : firstFailure (earlyChecks request) ≠ .ok () → admission.asked = [] ∧
    ∀ authenticate, ({ inbox with authenticate } : Inbox).examine request context = admission
  /-- All that is known of an admitted request, and that nobody was answered. -/
  admitted : ∀ user target, Admissible inbox request user target →
    admission.context =
      { requestId := context.requestId, method := request.method.name, path := request.path
        query := Query.nonEmpty? request.query, operation := some (operationOf request)
        user := some user, target := some target, storeStatus := none } ∧
    filtered = ⟨false, none, .fresh, admission, admission.records⟩
  /-- A refused request has no target, so that it cannot be made over for the store. -/
  untargeted : ∀ e, admission.result = .error e → admission.context.target = none ∧
    ∀ now upstream, (inbox.prepare admission.context now).outcome upstream =
      (.error (.backendForward "request reached upstream without a target"), upstream)
  /-- Its caller is answered once, with the status of the error. -/
  answered : ∀ e, admission.result = .error e → filtered.answered = true ∧
    ∃ response, filtered.response = some response ∧ response.status = e.status ∧
      filtered.session = ⟨some e.status⟩

theorem prepare_of_target_none {context : Context} (untargeted : context.target = none)
    (now : Civil) (upstream : Request) :
    (inbox.prepare context now).outcome upstream =
      (.error (.backendForward "request reached upstream without a target"), upstream) := by
  rw [prepare, untargeted]
  rfl

theorem filter_of_ok {context : Context}
    (admitted : (inbox.examine request context).result = .ok ()) (session : Session) :
    inbox.filter request context session =
      ⟨false, none, session, inbox.examine request context,
        (inbox.examine request context).records⟩ := by
  simp only [filter, admitted]

theorem filter_of_error {context : Context} {e : Error}
    (refused : (inbox.examine request context).result = .error e) :
    (inbox.filter request context .fresh).answered = true ∧
      (inbox.filter request context .fresh).response =
        some (Response.ofError e (inbox.examine request context).context) ∧
      (inbox.filter request context .fresh).session = ⟨some e.status⟩ := by
  simp only [filter, refused, true_and]
  exact ⟨rfl, rfl⟩

/-- Admission decides on a new request by its six checks in their order. -/
theorem decision_ofLine (inbox : Inbox) (request : Request) (requestId method path : Text) :
    Decision inbox request (.ofLine requestId method path)
      (inbox.examine request (.ofLine requestId method path))
      (inbox.filter request (.ofLine requestId method path) .fresh) := by
  have ended := examined_examine inbox request (.ofLine requestId method path)
  refine ⟨ended.first, ⟨?_, ?_⟩, ?_, ?_, ?_, ?_, ?_⟩
  · intro admitted
    rw [admitted] at ended
    obtain ⟨user, target, admissible, -⟩ := ended.admissible
    exact ⟨user, target, admissible⟩
  · rintro ⟨user, target, admissible⟩
    rw [ended.first, admissible.first]
  · intro early
    rcases ended.early with ⟨e, early', -⟩ | ⟨-, asked⟩
    · cases early.symm.trans early'
    · exact asked
  · intro early
    rcases ended.early with ⟨e, early', -⟩ | ⟨early', -⟩
    · -- Neither side of the second part looks at its authenticator.
      refine ⟨by rw [examine_of_early_error _ early'], fun authenticate => ?_⟩
      rw [examine_of_early_error _ early', examine_of_early_error _ early']
    · exact absurd early' early
  · intro user target admissible
    have admitted : (inbox.examine request (.ofLine requestId method path)).result = .ok () := by
      rw [ended.first, admissible.first]
    refine ⟨?_, filter_of_ok admitted .fresh⟩
    rw [admitted] at ended
    obtain ⟨user', target', admissible', known⟩ := ended.admissible
    obtain ⟨rfl, rfl⟩ := admissible.unique admissible'
    exact known
  · intro e refused
    rw [refused] at ended
    have untargeted := ended.target_of_error
    exact ⟨untargeted, prepare_of_target_none untargeted⟩
  · intro e refused
    obtain ⟨answered, response, session⟩ := filter_of_error refused
    exact ⟨answered, _, response, rfl, session⟩

end UploadInbox.Inbox
