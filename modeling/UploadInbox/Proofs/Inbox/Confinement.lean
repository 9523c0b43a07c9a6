import UploadInbox.Proofs.Authenticator
import UploadInbox.Proofs.Inbox.Admission
import UploadInbox.Proofs.Signing.Canonical

/-!
# Where admitted requests go

What is written stays below the prefix of the user whose name the path has: checks and routing read
the same first segment, however it is written, so that users of different names never write to the
same place. What is not written stays out of the bucket, but for its root, unless a user has the
name of the bucket.
-/
namespace UploadInbox.Inbox

open Route (Writes)

/-! ## What is written -/

/-- A target below the prefix of a user, where `key` is what follows the bucket. -/
structure Confined (bucket user : Text) (request : Request) (target : Target) (key : Text) :
    Prop where
  path : target.path = '/' :: bucket ++ '/' :: key
  /-- The first segment of the key stands for the user, and an object is named below it. -/
  owned : ∃ segment rest, Text.cut? '/' key = some (segment, rest) ∧
    Percent.decode? segment = some user ∧ rest ≠ []
  flat : '/' ∉ user
  query : target.query = Query.nonEmpty? request.query
  ends : request.method = .delete →
    ∃ pair ∈ Query.pairs (request.query.getD []), Percent.queryComponent pair.1 = "uploadId"
  /-- What is signed names the user as well, behind the bucket. -/
  signed : (Text.fields '/' (Signing.canonicalPath target.path))[2]? = some (Percent.encode user)
  ruled : Route.rule request.method request.path request.query ≠ .passThrough

variable {inbox : Inbox} {request : Request} {user : Text} {target : Target}

theorem Admissible.rule_of_writes (admissible : Admissible inbox request user target)
    (writes : Writes request.method) :
    Route.rule request.method request.path request.query = .upload ∨
      Route.rule request.method request.path request.query = .abort := by
  rcases writes with put | post | delete
  · rw [put]
    exact .inl rfl
  · rw [post]
    exact .inl rfl
  · have allowed := admissible.allowed
    rw [operationOf, delete] at allowed
    rw [delete, Route.rule_delete, if_pos (Operation.has_uploadId_of_isAllowed allowed)]
    exact .inr rfl

/-- The segments of a path below a prefix: the bucket, the user's segment, and the rest. -/
theorem fields_below {bucket segment : Text} (rest : Text) (flat : '/' ∉ bucket)
    (bare : '/' ∉ segment) :
    Text.fields '/' ('/' :: bucket ++ '/' :: (segment ++ '/' :: rest)) =
      [] :: bucket :: segment :: Text.fields '/' rest := by
  have first := Text.fields_append_cons '/' [] (bucket ++ '/' :: (segment ++ '/' :: rest)) (by simp)
  rw [List.nil_append] at first
  rw [List.cons_append, first, Text.fields_append_cons '/' bucket _ flat,
    Text.fields_append_cons '/' segment rest bare]

/-- A write goes to the segment of its user and what follows that in its path. -/
theorem Admissible.stored (admissible : Admissible inbox request user target)
    (writes : Writes request.method) :
    ∃ segment rest, Namespace.Names request.path user segment rest ∧ rest ≠ [] ∧
      target = ⟨'/' :: inbox.bucket ++ '/' :: segment ++ '/' :: rest,
        Query.nonEmpty? request.query⟩ := by
  have stored := admissible.rule_of_writes writes
  cases Route.routed_of_target admissible.placed with
  | location which | listing which | passThrough which =>
    rcases stored with upload | abort
    · cases which.symm.trans upload
    · cases which.symm.trans abort
  | @stored _ segment rest split object =>
    -- The user is told from the path and the target is made of it, both by the same cut.
    obtain ⟨segment', rest', names⟩ := Namespace.user_eq_ok.mp admissible.named
    cases split.symm.trans names.split
    exact ⟨segment, rest, names, object, rfl⟩

theorem Admissible.confined (admissible : Admissible inbox request user target)
    (writes : Writes request.method) (flat : '/' ∉ inbox.bucket) :
    ∃ key, Confined inbox.bucket user request target key := by
  obtain ⟨segment, rest, names, object, rfl⟩ := admissible.stored writes
  have bare := (Namespace.split?_eq_some names.split).2
  have filled : '/' :: inbox.bucket ++ '/' :: segment ++ '/' :: rest ≠ [] := by simp
  have shape : '/' :: inbox.bucket ++ '/' :: segment ++ '/' :: rest =
      '/' :: inbox.bucket ++ '/' :: (segment ++ '/' :: rest) := by simp
  refine ⟨segment ++ '/' :: rest, shape, ⟨segment, rest, ?_, names.decoded, object⟩, names.flat,
    rfl, ?_, ?_, ?_⟩
  · exact Text.cut?_append_cons '/' segment rest bare
  · intro delete
    have allowed := admissible.allowed
    rw [operationOf, delete] at allowed
    exact Query.has_iff.mp (Operation.has_uploadId_of_isAllowed allowed)
  · rw [Signing.fields_canonicalPath, Signing.rooted_of_ne_nil filled, shape,
      fields_below rest flat bare]
    exact congrArg some (Signing.canonicalSegment_of_decode? names.decoded)
  · intro through
    rcases admissible.rule_of_writes writes with upload | abort
    · cases upload.symm.trans through
    · cases abort.symm.trans through

/-- Keys below the prefixes of different users stand for different octets. -/
theorem Confined.octets_ne {bucket bucket' user' : Text} {request' : Request} {target' : Target}
    {key key' : Text} (confined : Confined bucket user request target key)
    (confined' : Confined bucket' user' request' target' key') (differ : user ≠ user') :
    Percent.octets key ≠ Percent.octets key' := by
  obtain ⟨segment, rest, cut, decoded, -⟩ := confined.owned
  obtain ⟨segment', rest', cut', decoded', -⟩ := confined'.owned
  obtain ⟨rfl, -⟩ := Text.cut?_eq_some '/' key segment rest cut
  obtain ⟨rfl, -⟩ := Text.cut?_eq_some '/' key' segment' rest' cut'
  exact Namespace.octets_ne rest rest' decoded decoded' confined.flat confined'.flat differ

/-- An inbox admits a request to write; the name of its bucket is one segment. -/
structure AdmitsWrite (inbox : Inbox) (request : Request) (context : Context) : Prop where
  flat : '/' ∉ inbox.bucket
  writes : Writes request.method
  admitted : (inbox.examine request context).result = .ok ()

theorem AdmitsWrite.confined {context : Context} (write : inbox.AdmitsWrite request context) :
    ∃ user target key, Admissible inbox request user target ∧
      (inbox.examine request context).context.user = some user ∧
      (inbox.examine request context).context.target = some target ∧
      Confined inbox.bucket user request target key := by
  have ended := examined_examine inbox request context
  rw [write.admitted] at ended
  obtain ⟨user, target, admissible, known⟩ := ended.admissible
  obtain ⟨key, confined⟩ := admissible.confined write.writes write.flat
  refine ⟨user, target, key, admissible, ?_, ?_, confined⟩
  · rw [known]
    rfl
  · rw [known]

/-- An admitted write goes below the prefix of the user that its path names, and no write of
another user goes to the same place. Where tokens are demanded, the request holds one of that
user. -/
theorem confined_of_admitsWrite {context : Context}
    (write : inbox.AdmitsWrite request context) :
    ∃ user target key, (inbox.examine request context).context.user = some user ∧
      (inbox.examine request context).context.target = some target ∧
      Confined inbox.bucket user request target key ∧
      (∀ verifier now, inbox.authenticate = .ofVerifier verifier now →
        Authenticator.Presents verifier now request user) ∧
      ∀ {inbox' : Inbox} {request' : Request} {context' : Context},
        inbox'.AdmitsWrite request' context' → ∀ {user' target' key'},
        (inbox'.examine request' context').context.user = some user' →
        (inbox'.examine request' context').context.target = some target' →
        target'.path = '/' :: inbox'.bucket ++ '/' :: key' →
        user ≠ user' → Percent.octets key ≠ Percent.octets key' := by
  obtain ⟨user, target, key, admissible, named, placed, confined⟩ := write.confined
  refine ⟨user, target, key, named, placed, confined, ?_, ?_⟩
  · intro verifier now demanded
    have authentic := admissible.authentic
    rw [demanded] at authentic
    exact Authenticator.presents_of_ofVerifier admissible.named authentic
  · intro inbox' request' context' write' user' target' key' named' placed' path' differ
    obtain ⟨user'', target'', key'', -, named'', placed'', confined'⟩ := write'.confined
    cases named''.symm.trans named'
    cases placed''.symm.trans placed'
    have same : '/' :: inbox'.bucket ++ '/' :: key' = '/' :: inbox'.bucket ++ '/' :: key'' := by
      rw [← path', confined'.path]
    cases List.append_cancel_left same
    exact confined.octets_ne confined' differ

/-- An inbox before a bucket of a store, which admits callers without a token. -/
def openTo (bucket : Text) : Inbox where
  endpoint := ⟨"localhost", 9000, false⟩
  credentials := ⟨"access", "secret", "us-east-1"⟩
  bucket := bucket
  timeout := 10
  certificates := none
  authenticate := Authenticator.allowAll
  facts := fun key => .error (.metadataLookup key)
  sink := fun _ => .ok ()

def storing (path : Text) : Request where
  method := .put
  uri := ⟨path, none⟩
  wire := Utf8.encode path
  headers := Headers.empty.set "content-length" [0x34] rfl

theorem confined_storing :
    ∃ target key, ((openTo "inbox").examine (storing "//al%20ice/data.bam")
        (.initial "1")).context.target = some target ∧
      Confined "inbox" "al ice" (storing "//al%20ice/data.bam") target key := by
  have write : (openTo "inbox").AdmitsWrite (storing "//al%20ice/data.bam") (.initial "1") :=
    ⟨by decide, .inl rfl, rfl⟩
  obtain ⟨user, target, key, named, placed, confined, -⟩ := confined_of_admitsWrite write
  cases (show some ("al ice" : Text) = some user from named)
  exact ⟨target, key, placed, confined⟩

/-! ## What is not written -/

/-- A path of which the first segment does not stand for a bucket. -/
def OutsideBucket (bucket path : Text) : Prop :=
  ∀ segment rest, Namespace.split? path = some (segment, rest) →
    Percent.decode? segment ≠ some bucket

/-- A request that passes through to an address of its own inside the bucket. -/
def Trespasses (bucket user : Text) (request : Request) : Prop :=
  Route.rule request.method request.path request.query = .passThrough ∧ user = bucket ∧
    request.path ≠ Route.rootOf bucket

/-- A path that names a user lies outside every bucket of another name. -/
theorem outsideBucket_iff {bucket path : Text} (named : Namespace.user path = .ok user) :
    OutsideBucket bucket path ↔ user ≠ bucket := by
  obtain ⟨segment, rest, split, decoded, -⟩ := Namespace.user_eq_ok.mp named
  constructor
  · rintro outside rfl
    exact outside segment rest split decoded
  · intro other segment' rest' split' decoded'
    rw [split] at split'
    cases split'
    rw [decoded] at decoded'
    exact other (Option.some.inj decoded')

theorem Admissible.outside_iff (admissible : Admissible inbox request user target)
    (reads : ¬ Writes request.method) :
    (target.path = Route.rootOf inbox.bucket ∨ OutsideBucket inbox.bucket target.path) ↔
      ¬ Trespasses inbox.bucket user request := by
  cases Route.routed_of_target admissible.placed with
  | location which | listing which =>
    refine iff_of_true (.inl rfl) ?_
    rintro ⟨through, -⟩
    cases which.symm.trans through
  | stored which => exact absurd (Route.writes_of_rule which) reads
  | passThrough which =>
    rw [outsideBucket_iff admissible.named]
    constructor
    · rintro (root | other) ⟨-, same, inside⟩
      · exact inside root
      · exact other same
    · intro sound
      by_cases root : request.path = Route.rootOf inbox.bucket
      · exact .inl root
      · exact .inr fun same => sound ⟨which, same, root⟩

/-- An admitted request that writes nothing goes to the root of the bucket or stays outside the
bucket, unless it is that of a user with the name of the bucket and passes through. -/
theorem outside_iff_not_trespasses {context : Context} (reads : ¬ Writes request.method)
    (admitted : (inbox.examine request context).result = .ok ()) :
    ∃ user target, (inbox.examine request context).context.user = some user ∧
      (inbox.examine request context).context.target = some target ∧
      ((target.path = Route.rootOf inbox.bucket ∨ OutsideBucket inbox.bucket target.path) ↔
        ¬ Trespasses inbox.bucket user request) := by
  have ended := examined_examine inbox request context
  rw [admitted] at ended
  obtain ⟨user, target, admissible, known⟩ := ended.admissible
  refine ⟨user, target, ?_, ?_, admissible.outside_iff reads⟩
  · rw [known]
    rfl
  · rw [known]

def reading (path : Text) : Request := ⟨.get, ⟨path, none⟩, Utf8.encode path, .empty⟩

theorem outside_reading :
    ∃ target, ((openTo "inbox").examine (reading "/alice/data.bam")
        (.initial "1")).context.target = some target ∧
      (target.path = Route.rootOf "inbox" ∨ OutsideBucket "inbox" target.path) := by
  have admitted : ((openTo "inbox").examine (reading "/alice/data.bam") (.initial "1")).result =
    .ok () := rfl
  obtain ⟨user, target, named, placed, outside⟩ :=
    outside_iff_not_trespasses (by decide : ¬ Writes (reading "/alice/data.bam").method) admitted
  cases (show some ("alice" : Text) = some user from named)
  refine ⟨target, placed, outside.mpr ?_⟩
  rintro ⟨-, same, -⟩
  cases same

/-- A user with the name of the bucket reads an object of another user. -/
theorem reading_inside_bucket :
    ∃ target, ((openTo "inbox").examine (reading "/inbox/alice/data.bam")
        (.initial "1")).result = .ok () ∧
      ((openTo "inbox").examine (reading "/inbox/alice/data.bam")
        (.initial "1")).context.target = some target ∧
      ¬ (target.path = Route.rootOf "inbox" ∨ OutsideBucket "inbox" target.path) := by
  refine ⟨⟨"/inbox/alice/data.bam", none⟩, rfl, rfl, ?_⟩
  rintro (root | outside)
  · cases root
  · exact outside "inbox" "alice/data.bam" rfl rfl

end UploadInbox.Inbox
