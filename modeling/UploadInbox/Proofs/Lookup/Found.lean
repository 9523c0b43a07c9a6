import UploadInbox.Command.Startup
import UploadInbox.Proofs.Http.Url
import UploadInbox.Proofs.Lookup.Contents
import UploadInbox.Proofs.Signing.Verifier
import UploadInbox.Proofs.Text.Decimal

/-!
# Objects that are looked up

A lookup asks the store for the first object of which the key begins with the key in question. The
store decodes to exactly that key what the query says, whatever characters the key is made of, and
so the first object that it lists is the one in question, or there is none.
-/
namespace UploadInbox

def Query.decoded (query : Text) : List (Bytes × Bytes) :=
  (pairs query).map fun pair => (Percent.queryOctets pair.1, Percent.queryOctets pair.2)

namespace Listing

def parameters (start : Text) (maxKeys : Nat) : List (Text × Text) :=
  [(("list-type" : Text), ("2" : Text)), (("max-keys" : Text), Decimal.ofNat maxKeys),
    (("prefix" : Text), Percent.encode start)]

theorem query_eq (start : Text) (maxKeys : Nat) :
    query start maxKeys = Text.join ['&'] ((parameters start maxKeys).map Signing.render) := by
  unfold query parameters
  generalize Decimal.ofNat maxKeys = number
  generalize Percent.encode start = value
  simp [Signing.render, Text.join]

/-- The query is written so that every key can be read off it. -/
theorem bare_parameters (start : Text) (maxKeys : Nat) :
    ∀ pair ∈ parameters start maxKeys, Signing.Bare pair := by
  intro pair member
  simp only [parameters, List.mem_cons, List.not_mem_nil, or_false] at member
  rcases member with rfl | rfl | rfl
  · exact ⟨by decide, by decide⟩
  · refine ⟨(by decide : '=' ∉ ("max-keys" : Text)), ?_⟩
    have number := Decimal.not_mem_ofNat (by decide : '&'.isDigit = false) maxKeys
    simp [Signing.render, number]
  · refine ⟨(by decide : '=' ∉ ("prefix" : Text)), ?_⟩
    have value : '&' ∉ Percent.encode start := Percent.not_mem_encode (by decide) start
    simp [Signing.render, value]

/-- The query says these three things, and what it says of the key is the key. -/
theorem decoded_query (start : Text) (maxKeys : Nat) :
    Query.decoded (query start maxKeys) =
      [(Utf8.encode "list-type", Utf8.encode "2"),
        (Utf8.encode "max-keys", Utf8.encode (Decimal.ofNat maxKeys)),
        (Utf8.encode "prefix", Utf8.encode start)] := by
  have plain {t : Text} (escape : '%' ∉ t) (plus : '+' ∉ t) :=
    Percent.queryOctets_of_not_mem escape plus
  have number := plain (Decimal.not_mem_ofNat (by decide) maxKeys)
    (Decimal.not_mem_ofNat (by decide) maxKeys)
  rw [Query.decoded, query_eq, Signing.pairs_join_render (bare_parameters start maxKeys)]
  simp only [parameters, List.map_cons, List.map_nil, number, Percent.queryOctets_encode]
  rw [plain (by decide : '%' ∉ ("list-type" : Text)) (by decide),
    plain (by decide : '%' ∉ ("2" : Text)) (by decide),
    plain (by decide : '%' ∉ ("max-keys" : Text)) (by decide),
    plain (by decide : '%' ∉ ("prefix" : Text)) (by decide)]

theorem isParameterChar_of_mem_query {start : Text} {maxKeys : Nat} {c : Char}
    (member : c ∈ query start maxKeys) : Query.isParameterChar c = true := by
  have front : ∀ d ∈ ("list-type=2&max-keys=" : Text), Query.isParameterChar d = true :=
    List.all_eq_true.mp (by decide)
  have back : ∀ d ∈ ("&prefix=" : Text), Query.isParameterChar d = true :=
    List.all_eq_true.mp (by decide)
  unfold query at member
  rcases List.mem_append.mp member with member | value
  · rcases List.mem_append.mp member with member | inside
    · rcases List.mem_append.mp member with inside | number
      · exact front c inside
      · have digit := Decimal.isDigit_of_mem_ofNat number
        simp [Query.isParameterChar, Percent.isWritten, Char.isAlphanum, digit]
    · exact back c inside
  · exact Query.isParameterChar_of_isWritten (Percent.isWritten_of_mem_encodeBytes value)

end Listing

/-! ## A store -/

/-- What a store is asked for: how keys begin, and how many objects it may list. -/
structure Asked where
  start : Bytes
  count : Nat

/-- What a query asks of a store. -/
def Asked.ofQuery? (query : Text) : Option Asked := do
  let value? (name : Text) : Option Bytes :=
    ((Query.decoded query).find? fun pair => pair.1 = Utf8.encode name).map (·.2)
  if value? "list-type" ≠ some (Utf8.encode "2") then none
  let count ← ((value? "max-keys").bind Utf8.decode?).bind Decimal.read?
  return ⟨(value? "prefix").getD [], count⟩

/-- What came back says that it went well, and lists the given objects. -/
def StoreReply.Lists (reply : StoreReply) (objects : List ListedObject) : Prop :=
  ∃ status contentType body, reply = .answered status contentType body ∧
    Status.isSuccess status = true ∧
    Listing.ofText
      ((((contentType.bind Headers.visible?).map MediaType.charset).getD .utf8).text
        (if Status.isBodiless status then [] else body)) = .ok objects

/-- A store lists of a bucket what a query asks it for. -/
def Contents.Answers (contents : Contents) (query : Text) (reply : StoreReply) : Prop :=
  ∃ asked, Asked.ofQuery? query = some asked ∧
    reply.Lists (contents.listed asked.start asked.count)

/-- A store takes the query of a lookup as it is meant. -/
theorem ofQuery?_query (key : Text) (maxKeys : Nat) :
    Asked.ofQuery? (Listing.query key maxKeys) = some ⟨Utf8.encode key, maxKeys⟩ := by
  have count : ((some (Utf8.encode (Decimal.ofNat maxKeys))).bind Utf8.decode?).bind
      Decimal.read? = some maxKeys := by
    rw [Option.bind_some, Utf8.decode?_encode, Option.bind_some, Decimal.read?_ofNat]
  unfold Asked.ofQuery?
  rw [Listing.decoded_query]
  change ((((some (Utf8.encode (Decimal.ofNat maxKeys))).bind Utf8.decode?).bind
    Decimal.read?).bind fun count => some (Asked.mk (Utf8.encode key) count)) = _
  rw [count, Option.bind_some]

/-- A listing that came back well is read for the key. -/
theorem ofReply_of_lists {reply : StoreReply} {objects : List ListedObject}
    (lists : reply.Lists objects) (key : Text) :
    Lookup.ofReply key reply = Lookup.ofListing key objects := by
  obtain ⟨status, contentType, body, rfl, success, read⟩ := lists
  have range := success
  simp only [Status.isSuccess, Bool.and_eq_true, decide_eq_true_eq] at range
  have proper : (!Status.isCode status || Status.isInterim status) = false := by
    simp only [Status.isCode, Status.isInterim, Bool.or_eq_false_iff, Bool.not_eq_false',
      Bool.and_eq_true, decide_eq_true_eq, Bool.and_eq_false_iff, decide_eq_false_iff_not]
    omega
  simp only [Lookup.ofReply, proper, success, read]
  rfl

namespace Contents

variable {contents : Contents} {key : Text}

/-- The first object that is listed tells what the bucket says about the key. -/
theorem ofListing_listed_of_mem {object : ListedObject} (inside : object ∈ contents.objects)
    (more : Nat) :
    Lookup.ofListing object.key (contents.listed (Utf8.encode object.key) (more + 1)) =
      .ok ⟨object.size, object.tag⟩ := by
  obtain ⟨rest, shape⟩ := below_of_mem inside
  rw [listed, shape, List.take_succ_cons, Lookup.ofListing, if_pos rfl]

/-- An object that is not there is not found, whatever is listed. -/
theorem ofListing_listed_of_absent (absent : ∀ object ∈ contents.objects, object.key ≠ key)
    (start : Bytes) (count : Nat) :
    ∃ detail, Lookup.ofListing key (contents.listed start count) =
      .error (.metadataLookup detail) := by
  cases shape : contents.listed start count with
  | nil => exact ⟨_, rfl⟩
  | cons first rest =>
    have among : first ∈ contents.listed start count := by
      rw [shape]
      exact List.mem_cons_self
    have inside := (mem_below.mp (List.mem_of_mem_take among)).1
    rw [Lookup.ofListing, if_neg (absent first inside)]
    exact ⟨_, rfl⟩

end Contents

namespace Lookup

/-- The query of a request: what follows the address of the bucket. -/
def queryOf (lookup : Lookup) (request : ListingRequest) : Text :=
  request.url.drop (lookup.endpoint.baseUrl ++ lookup.path ++ ['?']).length

theorem queryOf_request (lookup : Lookup) (key : Text) (now : Civil) :
    lookup.queryOf (lookup.request key now) = Listing.query key 1 := by
  have url : (lookup.request key now).url =
      (lookup.endpoint.baseUrl ++ lookup.path ++ ['?']) ++ Listing.query key 1 := by
    rw [List.append_assoc]
    rfl
  rw [queryOf, url, List.drop_left]

/-- The query is sent as it stands. -/
theorem requestLine_eq (lookup : Lookup) (key : Text) (bare : '?' ∉ lookup.bucket)
    (whole : '#' ∉ lookup.bucket) :
    ∃ path, '?' ∉ path ∧
      lookup.requestLine key = "GET " ++ (path ++ '?' :: Listing.query key 1) ++ " HTTP/1.1" := by
  have chars : ∀ c ∈ Listing.query key 1, Query.isParameterChar c = true :=
    fun _ => Listing.isParameterChar_of_mem_query
  obtain ⟨path, absent, target⟩ := Url.target_append_cons bare whole chars
  exact ⟨path, absent, by rw [requestLine, target]⟩

/-- A lookup finds the object of its key and no other: when the store lists what the query asks for,
what is found is what the bucket says about the key, and nothing is found when it says nothing. -/
theorem found_iff_in_contents (lookup : Lookup) (key : Text) (now : Civil) :
    Query.decoded (lookup.queryOf (lookup.request key now)) =
      [(Utf8.encode "list-type", Utf8.encode "2"), (Utf8.encode "max-keys", Utf8.encode "1"),
        (Utf8.encode "prefix", Utf8.encode key)] ∧
    '+' ∉ lookup.queryOf (lookup.request key now) ∧
    ('?' ∉ lookup.bucket → '#' ∉ lookup.bucket → ∃ path, '?' ∉ path ∧
      lookup.requestLine key =
        "GET " ++ (path ++ '?' :: lookup.queryOf (lookup.request key now)) ++ " HTTP/1.1") ∧
    ∀ (contents : Contents) (reply : StoreReply),
      contents.Answers (lookup.queryOf (lookup.request key now)) reply →
        (∀ found, ofReply key reply = .ok found ↔ contents.facts? key = some found) ∧
        (contents.facts? key = none → ∃ detail, ofReply key reply =
          .error (.metadataLookup detail)) := by
  rw [queryOf_request]
  refine ⟨Listing.decoded_query key 1, ?_, lookup.requestLine_eq key, ?_⟩
  · exact not_mem_of_class (fun _ => Listing.isParameterChar_of_mem_query) (by decide)
  rintro contents reply ⟨asked, asks, lists⟩
  cases (ofQuery?_query key 1).symm.trans asks
  rw [ofReply_of_lists lists]
  by_cases present : ∃ object ∈ contents.objects, object.key = key
  · obtain ⟨object, inside, rfl⟩ := present
    rw [Contents.facts?_of_mem inside, Contents.ofListing_listed_of_mem inside 0]
    refine ⟨fun found => ?_, nofun⟩
    rw [Except.ok.injEq, Option.some_inj]
  · have absent : ∀ object ∈ contents.objects, object.key ≠ key :=
      fun object inside same => present ⟨object, inside, same⟩
    obtain ⟨detail, missing⟩ := Contents.ofListing_listed_of_absent absent (Utf8.encode key) 1
    rw [Contents.facts?_eq_none absent, missing]
    exact ⟨fun found => ⟨nofun, nofun⟩, fun _ => ⟨detail, rfl⟩⟩

/-- Three objects of which the keys begin alike. -/
def commonPrefixKeys : Contents :=
  ⟨[⟨"alice/a&b=c", 7, "t2"⟩, ⟨"alice/a&b", 5, "t1"⟩, ⟨"alice/a&b+ c", 9, "t3"⟩], by decide⟩

/-- The listing of one of them. -/
def shortestKeyReply : StoreReply :=
  .answered 200 none (Utf8.encode ("<ListBucketResult><Contents><Key>alice/a&amp;b</Key>" ++
    "<Size>5</Size><ETag>\"t1\"</ETag></Contents></ListBucketResult>"))

/-- Lookups in the bucket of these objects. -/
def inboxLookup : Lookup := ⟨⟨"store", 9000, false⟩, "inbox", ⟨"access", "secret", "us-east-1"⟩⟩

/-- The query of a lookup of the shortest key. -/
def shortestKeyQuery : Text :=
  inboxLookup.queryOf (inboxLookup.request "alice/a&b" ⟨2024, 3, 7, 9, 5, 1⟩)

theorem found_commonPrefixKeys :
    commonPrefixKeys.Answers shortestKeyQuery shortestKeyReply ∧
      ofReply "alice/a&b" shortestKeyReply = .ok ⟨5, "t1"⟩ := by
  have inside : ⟨"alice/a&b", 5, "t1"⟩ ∈ commonPrefixKeys.objects := by decide
  have answers : commonPrefixKeys.Answers shortestKeyQuery shortestKeyReply := by
    obtain ⟨rest, shape⟩ := Contents.below_of_mem inside
    have listed :
        commonPrefixKeys.listed (Utf8.encode "alice/a&b") 1 = [⟨"alice/a&b", 5, "t1"⟩] := by
      rw [Contents.listed, shape]
      rfl
    refine ⟨⟨Utf8.encode "alice/a&b", 1⟩, ?_, 200, none, _, rfl, rfl, ?_⟩
    · rw [shortestKeyQuery, queryOf_request, ofQuery?_query]
    · rw [listed]
      decide +kernel
  obtain ⟨-, -, -, finds⟩ := found_iff_in_contents inboxLookup "alice/a&b" ⟨2024, 3, 7, 9, 5, 1⟩
  exact ⟨answers, ((finds commonPrefixKeys shortestKeyReply answers).1 _).mpr (by decide)⟩

end Lookup
end UploadInbox
