import Mathlib.Data.List.TakeWhile
import UploadInbox.Lookup
import UploadInbox.Proofs.Endpoint
import UploadInbox.Proofs.Text.Characters
import UploadInbox.Proofs.Text.Decimal
import UploadInbox.Proofs.Text.Fields

/-!
# The host of a lookup

A lookup is signed for the host of the endpoint, as the settings write it. The client that sends it
takes the host from the address instead, in lowercase. So the store gets the host that was signed
unless the settings write it with a capital letter; then every lookup is signed for another host
than it is sent to.
-/
namespace UploadInbox

/-- A client takes a host from an address: in lowercase, and with the number unless it is the one of
the scheme. -/
structure NamesHost (client : Text → Text) (host : Text) : Prop where
  bare : ∀ (e : Endpoint) (rest : Text),
    client (e.scheme ++ "://" ++ host ++ '/' :: rest) = Text.lowerAscii host
  numbered : ∀ (e : Endpoint) (rest : Text),
    client (e.scheme ++ "://" ++ host ++ ':' :: Decimal.ofNat e.port.toNat ++ '/' :: rest) =
      if e.port = Endpoint.defaultPort e.encrypted then Text.lowerAscii host
      else Text.lowerAscii host ++ ':' :: Decimal.ofNat e.port.toNat

/-- The fields of a request as a client sends them, with a host of its own. -/
def ListingRequest.sentBy (client : Text → Text) (request : ListingRequest) : SortedFields :=
  request.headers.map fun field =>
    if field.1 = ("host" : Text) then (field.1, client request.url) else field

namespace Lookup

variable {client : Text → Text} {lookup : Lookup}

/-- The authorization that the store expects of the request for a key with the given fields. -/
def expected (lookup : Lookup) (key : Text) (now : Civil) (fields : SortedFields) : Text :=
  Signing.storeAuthorization lookup.credentials
    { lookup.subject key now.timestamp with headers := fields } now.date now.timestamp

/-- The host that is sent is that of the endpoint in lowercase, with the same number. -/
theorem client_url (names : NamesHost client lookup.endpoint.host) (key : Text) (now : Civil) :
    client (lookup.request key now).url =
      Endpoint.authority
        { lookup.endpoint with host := Text.lowerAscii lookup.endpoint.host } := by
  obtain ⟨endpoint, bucket, credentials⟩ := lookup
  by_cases standard : endpoint.port = Endpoint.defaultPort endpoint.encrypted
  · have url : (request ⟨endpoint, bucket, credentials⟩ key now).url = endpoint.scheme ++ "://" ++
        endpoint.host ++ '/' :: (bucket ++ '?' :: Listing.query key 1) := by
      simp [request, Endpoint.baseUrl, Endpoint.authority, path, standard]
    rw [url, names.bare, Endpoint.authority, if_pos standard]
  · have url : (request ⟨endpoint, bucket, credentials⟩ key now).url = endpoint.scheme ++ "://" ++
        endpoint.host ++ ':' :: Decimal.ofNat endpoint.port.toNat ++
        '/' :: (bucket ++ '?' :: Listing.query key 1) := by
      simp [request, Endpoint.baseUrl, Endpoint.authority, path, standard]
    rw [url, names.numbered, if_neg standard, Endpoint.authority, if_neg standard]

theorem authority_eq_iff (e : Endpoint) (host : Text) :
    e.authority = Endpoint.authority { e with host } ↔ e.host = host := by
  unfold Endpoint.authority
  split
  · rfl
  · exact List.append_left_inj _

theorem values_host (key : Text) (now : Civil) :
    (lookup.request key now).headers.find? (· = "host") = some lookup.endpoint.authority := rfl

/-- A lookup is sent to the host that it is signed for exactly when the host has no capital letter;
then the store, which is sent that host, expects the very authorization that it is sent. -/
theorem signed_host_eq_sent_iff (names : NamesHost client lookup.endpoint.host) (key : Text)
    (now : Civil) :
    ((lookup.request key now).headers.find? (· = "host") =
        some (client (lookup.request key now).url) ↔
      ∀ c ∈ lookup.endpoint.host, c.isUpper = false) ∧
    ((∀ c ∈ lookup.endpoint.host, c.isUpper = false) →
      (lookup.request key now).headers.find? (· = "authorization") =
        some (lookup.expected key now ((lookup.request key now).sentBy client))) := by
  have same : (lookup.request key now).headers.find? (· = "host") =
      some (client (lookup.request key now).url) ↔
        ∀ c ∈ lookup.endpoint.host, c.isUpper = false := by
    rw [values_host, client_url names, Option.some_inj, authority_eq_iff, eq_comm,
      Text.lowerAscii_eq_self_iff]
  refine ⟨same, fun lower => ?_⟩
  have host : lookup.endpoint.authority = client (lookup.request key now).url := by
    have agree := same.mpr lower
    rw [values_host] at agree
    exact Option.some.inj agree
  have sent : (lookup.request key now).sentBy client = (lookup.request key now).headers := by
    rw [ListingRequest.sentBy, ← host]
    rfl
  rw [sent]
  rfl

/-! ## A client -/

/-- Whether a character may stand in the name of a host. -/
def isHostChar (c : Char) : Bool := c.isAlphanum || c = '-' || c = '.'

/-- The marks that end an authority for a client. -/
def authorityEnds : Text := "/?#\\"

/-- The host that a client takes from an address. -/
def clientHost (url : Text) : Text :=
  match Endpoint.afterScheme? url with
  | none => []
  | some (encrypted, rest) =>
    match Endpoint.hostAndPort encrypted (rest.takeWhile (!authorityEnds.contains ·)) with
    | none => []
    | some (host, port) => Endpoint.authority ⟨Text.lowerAscii host, port, encrypted⟩

theorem clientHost_of_authority (e : Endpoint) {authority : Text} (rest : Text)
    (plain : ∀ c ∈ authority, authorityEnds.contains c = false) :
    clientHost (e.scheme ++ "://" ++ authority ++ '/' :: rest) =
      match Endpoint.hostAndPort e.encrypted authority with
      | none => []
      | some (host, port) => Endpoint.authority ⟨Text.lowerAscii host, port, e.encrypted⟩ := by
  have within : (authority ++ '/' :: rest).takeWhile (!authorityEnds.contains ·) = authority := by
    rw [List.takeWhile_append_of_pos fun c member => by rw [plain c member]; rfl]
    exact List.append_nil authority
  rw [clientHost, e.scheme_append, List.append_assoc, Endpoint.afterScheme?_schemeMark]
  simp only [within]

/-- This client names hosts as it should where they are names. -/
theorem namesHost_clientHost {host : Text} (named : ∀ c ∈ host, isHostChar c = true) :
    NamesHost clientHost host := by
  have colon : ':' ∉ host := not_mem_of_class named (by decide)
  -- no mark that ends an authority is in it, so that the client takes all of it
  have inside {c : Char} (char : isHostChar c = true ∨ c = ':') :
      authorityEnds.contains c = false := by
    have others : ∀ d ∈ authorityEnds, (!(isHostChar d || d = ':')) = true :=
      List.all_eq_true.mp (by decide)
    rw [List.contains_eq_mem, decide_eq_false_iff_not]
    intro ends
    have other := others c ends
    simp only [Bool.not_eq_true', Bool.or_eq_false_iff, decide_eq_false_iff_not] at other
    rcases char with name | colon
    · rw [name] at other
      cases other.1
    · exact other.2 colon
  constructor
  · intro e rest
    have located : Endpoint.hostAndPort e.encrypted host =
        some (host, Endpoint.defaultPort e.encrypted) :=
      Endpoint.hostAndPort_eq_some_iff.mpr (.inl ⟨rfl, colon, rfl⟩)
    rw [clientHost_of_authority e rest fun c member => inside (.inl (named c member)), located]
    exact if_pos rfl
  · intro e rest
    have digit {c : Char} (member : c ∈ Decimal.ofNat e.port.toNat) : isHostChar c = true := by
      simp [isHostChar, Char.isAlphanum, Decimal.isDigit_of_mem_ofNat member]
    have whole : ∀ c ∈ host ++ ':' :: Decimal.ofNat e.port.toNat,
        authorityEnds.contains c = false := by
      intro c member
      rcases List.mem_append.mp member with name | number
      · exact inside (.inl (named c name))
      · exact inside ((List.mem_cons.mp number).symm.imp_left digit)
    have located : Endpoint.hostAndPort e.encrypted (host ++ ':' :: Decimal.ofNat e.port.toNat) =
        some (host, e.port) :=
      Endpoint.hostAndPort_eq_some_iff.mpr (.inr ⟨_, rfl, Decimal.not_mem_ofNat (by decide) _,
        Decimal.readUInt16?_ofNat e.port⟩)
    rw [List.append_assoc _ host, clientHost_of_authority e rest whole, located]
    rfl

/-- Lookups of a store at a host. -/
def storeAt (host : Text) : Lookup :=
  ⟨⟨host, 9000, false⟩, "inbox", ⟨"access", "secret", "us-east-1"⟩⟩

def aliceAt (host : Text) : ListingRequest :=
  (storeAt host).request "alice/data.bam" ⟨2024, 3, 7, 9, 5, 1⟩

theorem signed_host_eq_sent_storeAt :
    Endpoint.ofUrl "http://minio.local:9000/" = .ok (storeAt "minio.local").endpoint ∧
      (aliceAt "minio.local").headers.find? (· = "host") =
        some (clientHost (aliceAt "minio.local").url) ∧
      (aliceAt "minio.local").headers.find? (· = "authorization") =
        some ((storeAt "minio.local").expected "alice/data.bam" ⟨2024, 3, 7, 9, 5, 1⟩
          ((aliceAt "minio.local").sentBy clientHost)) := by
  have names : NamesHost clientHost (storeAt "minio.local").endpoint.host :=
    namesHost_clientHost (List.all_eq_true.mp (by decide))
  have lower : ∀ c ∈ (storeAt "minio.local").endpoint.host, c.isUpper = false :=
    Text.lowerAscii_eq_self_iff.mp (by decide)
  obtain ⟨agree, expected⟩ := signed_host_eq_sent_iff names "alice/data.bam" ⟨2024, 3, 7, 9, 5, 1⟩
  exact ⟨by decide, agree.mpr lower, expected lower⟩

/-- A host with capital letters is accepted, and no lookup is sent to the host it is signed for. -/
theorem signed_host_ne_sent_storeAt :
    Endpoint.ofUrl "http://MinIO.local:9000" = .ok (storeAt "MinIO.local").endpoint ∧
      NamesHost clientHost "MinIO.local" ∧
      ∀ key now, ((storeAt "MinIO.local").request key now).headers.find? (· = "host") ≠
        some (clientHost ((storeAt "MinIO.local").request key now).url) := by
  have names : NamesHost clientHost (storeAt "MinIO.local").endpoint.host :=
    namesHost_clientHost (List.all_eq_true.mp (by decide))
  refine ⟨by decide, names, fun key now same => ?_⟩
  have url : clientHost ((storeAt "MinIO.local").request key now).url = "minio.local:9000" :=
    client_url names key now
  rw [url] at same
  exact absurd (Option.some.inj same) (by decide)

end Lookup
end UploadInbox
