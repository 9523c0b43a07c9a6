import Mathlib.Data.List.TakeWhile
import UploadInbox.Http.Uri
import UploadInbox.Proofs.Query
import UploadInbox.Proofs.Text.Characters

/-!
# Request targets that are read

Whatever way a request target was read, its path has no mark of a query or a fragment and begins
with a slash, but for the few forms without a path; and what is sent for such a path and query reads
back as exactly these. A target goes on character by character when it names no server and has no
fragment, and only then.
-/
namespace UploadInbox.Uri

/-- Path and query as a request target gives them. -/
structure Addressed (path : Text) (query : Option Text) : Prop where
  bare : '?' ∉ path
  whole : '#' ∉ path
  whole_query : '#' ∉ query.getD []
  start : (∃ rest, path = '/' :: rest) ∨ (path = [] ∨ path = ['*']) ∧ query.getD [] = []

/-- Path and query of characters that may stand in them. -/
structure Legal (path : Text) (query : Option Text) : Prop where
  path : ∀ c ∈ path, isPathChar c = true
  query : ∀ c ∈ query.getD [], isQueryChar c = true

/-! ## Reading -/

theorem mark_not_mem_withoutFragment (t : Text) : '#' ∉ withoutFragment t := by
  intro member
  have kept := List.mem_takeWhile_imp member
  exact absurd rfl (of_decide_eq_true kept)

theorem withoutFragment_of_not_mem {t : Text} (whole : '#' ∉ t) : withoutFragment t = t := by
  refine List.takeWhile_eq_self_iff.mpr fun c member => decide_eq_true ?_
  rintro rfl
  exact whole member

/-- What was read is what stood before the fragment. -/
theorem ofText_eq_ok {t : Text} {uri : Uri} (read : ofText t = .ok uri) :
    '?' ∉ uri.written ∧
      withoutFragment t = uri.written ++ (uri.query.map ('?' :: ·)).getD [] := by
  unfold ofText at read
  cases cut : Text.cut? '?' (withoutFragment t) with
  | none =>
    simp only [cut] at read
    split at read
    next =>
      cases read
      have absent : '?' ∉ withoutFragment t := by
        intro member
        obtain ⟨before, after, whole, first⟩ := List.eq_append_cons_of_mem member
        rw [whole, Text.cut?_append_cons '?' before after first] at cut
        cases cut
      simp [absent]
    next => cases read
  | some parts =>
    obtain ⟨path, query⟩ := parts
    obtain ⟨whole, absent⟩ := Text.cut?_eq_some '?' _ path query cut
    simp only [cut] at read
    split at read
    next =>
      cases read
      exact ⟨absent, whole⟩
    next => cases read

/-- A path that is not empty begins like the text that it was read from. -/
theorem head_of_ofText {c d : Char} {rest path : Text} {query : Option Text}
    (read : ofText (c :: rest) = .ok ⟨d :: path, query⟩) : d = c ∧ c ≠ '?' ∧ c ≠ '#' := by
  obtain ⟨bare, whole⟩ := ofText_eq_ok read
  rw [withoutFragment, List.takeWhile_cons] at whole
  split at whole
  next kept =>
    obtain rfl := (List.cons.inj whole).1
    refine ⟨rfl, ?_, of_decide_eq_true kept⟩
    rintro rfl
    exact bare List.mem_cons_self
  next => cases whole

/-- A text that begins with a slash, or is the star, gives a path and a query. -/
theorem addressed_ofText {c : Char} {rest : Text} {uri : Uri}
    (start : c = '/' ∨ c = '?' ∨ c = '#' ∨ c :: rest = ['*'])
    (read : ofText (c :: rest) = .ok uri) : Addressed uri.path uri.query := by
  obtain ⟨written, query⟩ := uri
  obtain ⟨bare, whole⟩ := ofText_eq_ok read
  have absent := mark_not_mem_withoutFragment (c :: rest)
  rw [whole] at absent
  simp only [List.mem_append, not_or] at absent
  obtain ⟨path_whole, query_whole⟩ := absent
  have query_whole : '#' ∉ query.getD [] := by
    cases query with
    | none => simp
    | some query => simpa using query_whole
  cases written with
  | nil =>
    cases query with
    | none =>
      exact ⟨by simp [path], by simp [path], query_whole, .inr ⟨.inl rfl, rfl⟩⟩
    | some query =>
      exact ⟨by simp [path], by simp [path], query_whole, .inl ⟨[], rfl⟩⟩
  | cons d written =>
    obtain ⟨rfl, mark, fragment⟩ := head_of_ofText read
    refine ⟨bare, path_whole, query_whole, ?_⟩
    rcases start with rfl | rfl | rfl | star
    · exact .inl ⟨written, rfl⟩
    · exact absurd rfl mark
    · exact absurd rfl fragment
    · obtain ⟨rfl, rfl⟩ := List.cons.inj star
      have shape : ['*'] = '*' :: written ++ (query.map ('?' :: ·)).getD [] := whole
      have nothing : written ++ (query.map ('?' :: ·)).getD [] = [] := (List.cons.inj shape).2.symm
      obtain ⟨rfl, no_query⟩ := List.append_eq_nil_iff.mp nothing
      cases query with
      | none => exact .inr ⟨.inr rfl, rfl⟩
      | some query => cases no_query

theorem addressed_readTarget {t : Text} {uri : Uri} (read : readTarget t = .ok uri) :
    Addressed uri.path uri.query := by
  unfold readTarget at read
  cases t with
  | nil =>
    cases read
    exact ⟨by simp [path], by simp [path], by simp, .inr ⟨.inl rfl, rfl⟩⟩
  | cons c rest =>
    simp only at read
    split at read
    next => cases read
    next =>
      split at read
      next start =>
        simp only [Bool.or_eq_true, decide_eq_true_eq] at start
        refine addressed_ofText ?_ read
        rcases start with ((slash | query) | fragment) | star
        · exact .inl slash
        · exact .inr (.inl query)
        · exact .inr (.inr (.inl fragment))
        · exact .inr (.inr (.inr star))
      next => cases read

theorem afterAuthority_eq_ok {a : Authority} {t after : Text}
    (read : afterAuthority a t = .ok after) :
    after = [] ∨ ∃ c rest, after = c :: rest ∧ (c = '/' ∨ c = '?' ∨ c = '#') := by
  induction t generalizing a with
  | nil =>
    rw [afterAuthority] at read
    split at read
    · cases read
      exact .inl rfl
    · cases read
  | cons c rest ih =>
    rw [afterAuthority] at read
    split at read
    next ends =>
      split at read
      · cases read
        simp only [Bool.or_eq_true, decide_eq_true_eq, or_assoc] at ends
        exact .inr ⟨c, rest, rfl, ends⟩
      · cases read
    next =>
      split at read
      · exact ih read
      · cases read

/-- A request target in the form that names no server. -/
def IsOrigin (t : Text) : Prop := (∃ rest, t = '/' :: rest) ∨ t = ['*']

def rooted (uri : Uri) : Uri := if uri.written.isEmpty then { uri with written := ['/'] } else uri

/-- How a request target is read: as it stands, as a server alone, or behind a server. -/
inductive ReadFrom (t : Text) : Uri → Prop where
  | origin {uri : Uri} (here : IsOrigin t) (inside : ofText t = .ok uri) : ReadFrom t uri
  | server (foreign : ¬ IsOrigin t) : ReadFrom t ⟨[], none⟩
  | absolute {after : Text} {uri : Uri} (foreign : ¬ IsOrigin t)
      (start : after = [] ∨ ∃ c rest, after = c :: rest ∧ (c = '/' ∨ c = '?' ∨ c = '#'))
      (inside : ofText after = .ok uri) : ReadFrom t uri.rooted

theorem isOrigin_cons_iff {c : Char} {rest : Text} :
    IsOrigin (c :: rest) ↔ (c = '/' || c :: rest = ['*']) = true := by
  simp [IsOrigin]

theorem readFrom_of_read {t : Text} {uri : Uri} (ok : read t = .ok uri) : ReadFrom t uri := by
  unfold read at ok
  cases t with
  | nil => cases ok
  | cons c rest =>
    simp only at ok
    split at ok
    next => cases ok
    split at ok
    next start => exact .origin (isOrigin_cons_iff.mpr start) ok
    next other =>
      have foreign : ¬ IsOrigin (c :: rest) := fun origin => other (isOrigin_cons_iff.mp origin)
      split at ok
      next => cases ok
      next =>
        split at ok
        next => cases ok
        next =>
          cases ok
          exact .server foreign
        next => cases ok
      next =>
        split at ok
        next => cases ok
        next after authority =>
          split at ok
          next => cases ok
          cases inside : ofText after with
          | error fault =>
            rw [inside] at ok
            cases ok
          | ok inner =>
            rw [inside] at ok
            obtain rfl := Except.ok.inj ok
            exact .absolute foreign (afterAuthority_eq_ok authority) inside

theorem addressed_empty : Addressed (path ⟨[], none⟩) none :=
  ⟨by simp [path], by simp [path], by simp, .inr ⟨.inl rfl, rfl⟩⟩

/-- The root in the place of an empty path changes nothing but that. -/
theorem Addressed.rooted {uri : Uri} (addressed : Addressed uri.path uri.query) :
    Addressed uri.rooted.path uri.rooted.query := by
  unfold Uri.rooted
  split
  · exact ⟨by simp [path], by simp [path], addressed.whole_query, .inl ⟨[], rfl⟩⟩
  · exact addressed

theorem addressed_read {t : Text} {uri : Uri} (ok : read t = .ok uri) :
    Addressed uri.path uri.query := by
  cases readFrom_of_read ok with
  | origin here inside =>
    rcases here with ⟨rest, rfl⟩ | rfl
    · exact addressed_ofText (.inl rfl) inside
    · exact addressed_ofText (.inr (.inr (.inr rfl))) inside
  | server foreign => exact addressed_empty
  | absolute foreign start inside =>
    -- After the authority comes nothing, or a text that begins like a request line.
    apply Addressed.rooted
    rcases start with rfl | ⟨c, rest, rfl, start⟩
    · cases inside
      exact addressed_empty
    · exact addressed_ofText (start.imp_right fun other => other.imp_right .inl) inside

/-- Whether a path and a query were read, from a request line or from an address. -/
def IsRead (uri : Uri) : Prop := ∃ t, readTarget t = .ok uri ∨ read t = .ok uri

theorem IsRead.addressed {uri : Uri} (parsed : IsRead uri) : Addressed uri.path uri.query := by
  obtain ⟨t, line | address⟩ := parsed
  · exact addressed_readTarget line
  · exact addressed_read address

/-! ## Characters of what was read -/

theorem isPathChar_of_isPlain {c : Char} (plain : isPlain c = true) : isPathChar c = true := by
  have bounds := bounds_of_isPlain plain
  have accent : c.toNat ≠ 0x60 := fun number =>
    ne_of_class plain (by decide : isPlain '`' = false) (Char.toNat_inj.mp number)
  simp [isPathChar, bounds, accent, ne_of_class plain (by decide : isPlain '<' = false),
    ne_of_class plain (by decide : isPlain '>' = false)]

theorem isQueryChar_of_isParameterChar {c : Char} (char : Query.isParameterChar c = true) :
    isQueryChar c = true :=
  imp_of_ascii Query.isParameterChar isQueryChar (by decide +kernel)
    (Query.lt_of_isParameterChar char) char

theorem legal_none {path : Text} (legal : ∀ c ∈ path, isPathChar c = true) : Legal path none :=
  ⟨legal, by simp⟩

/-- The root in the place of an empty path is as legal. -/
theorem Legal.path_of_written {uri : Uri} (legal : Legal uri.written uri.query) :
    Legal uri.path uri.query := by
  refine ⟨?_, legal.query⟩
  unfold Uri.path
  split
  · exact List.all_eq_true.mp (by decide)
  · exact legal.path

theorem legal_ofText {t : Text} {uri : Uri} (read : ofText t = .ok uri) :
    Legal uri.written uri.query := by
  unfold ofText at read
  cases cut : Text.cut? '?' (withoutFragment t) with
  | none =>
    simp only [cut] at read
    split at read
    next legal =>
      cases read
      exact legal_none (List.all_eq_true.mp (Bool.and_eq_true_iff.mp legal).1)
    next => cases read
  | some parts =>
    simp only [cut] at read
    split at read
    next legal =>
      cases read
      exact ⟨List.all_eq_true.mp (Bool.and_eq_true_iff.mp legal).1,
        List.all_eq_true.mp (Bool.and_eq_true_iff.mp legal).2⟩
    next => cases read

theorem legal_readTarget {t : Text} {uri : Uri} (read : readTarget t = .ok uri) :
    Legal uri.written uri.query := by
  unfold readTarget at read
  split at read
  next =>
    cases read
    exact legal_none (by simp)
  next =>
    split at read
    next => cases read
    next =>
      split at read
      next => exact legal_ofText read
      next => cases read

theorem legal_read {t : Text} {uri : Uri} (ok : read t = .ok uri) :
    Legal uri.written uri.query := by
  cases readFrom_of_read ok with
  | origin here inside => exact legal_ofText inside
  | server foreign => exact legal_none (by simp)
  | absolute foreign start inside =>
    have legal := legal_ofText inside
    unfold rooted
    split
    · have root : ∀ c ∈ ['/'], isPathChar c = true := List.all_eq_true.mp (by decide)
      exact ⟨root, legal.query⟩
    · exact legal

theorem IsRead.legal {uri : Uri} (parsed : IsRead uri) : Legal uri.path uri.query := by
  obtain ⟨t, line | address⟩ := parsed
  · exact (legal_readTarget line).path_of_written
  · exact (legal_read address).path_of_written

/-! ## Reading what is sent -/

theorem ofText_target {path : Text} {query : Option Text} (bare : '?' ∉ path) (whole : '#' ∉ path)
    (whole_query : '#' ∉ query.getD []) :
    ofText (Query.target path query) =
      if path.all isPathChar && (query.getD []).all isQueryChar then
        .ok ⟨path, Query.nonEmpty? query⟩
      else .error .character := by
  have alone : ofText path =
      if path.all isPathChar && List.all [] isQueryChar then .ok ⟨path, none⟩
      else .error .character := by
    rw [ofText, withoutFragment_of_not_mem whole, Text.cut?_of_not_mem '?' path bare]
    rfl
  match query with
  | none => exact alone
  | some [] => exact alone
  | some (c :: query) =>
    have kept : withoutFragment (path ++ '?' :: c :: query) = path ++ '?' :: c :: query := by
      refine withoutFragment_of_not_mem ?_
      simp only [Option.getD_some] at whole_query
      simp only [List.mem_append, List.mem_cons, not_or] at whole_query ⊢
      exact ⟨whole, by decide, whole_query⟩
    simp only [ofText, Query.target, kept, Text.cut?_append_cons '?' path (c :: query) bare]
    rfl

/-- What is sent for a path that is not empty is read as it stands; no authority is looked for. -/
theorem read_target {path : Text} {query : Option Text} (addressed : Addressed path query)
    (filled : path ≠ []) :
    read (Query.target path query) =
      if maxLength < (Utf8.encode (Query.target path query)).length then .error .length
      else ofText (Query.target path query) := by
  rcases addressed.start with ⟨rest, rfl⟩ | ⟨rfl | rfl, no_query⟩
  · rw [Query.target_cons]
    simp [read]
  · exact absurd rfl filled
  · rw [Query.target_of_empty no_query]
    simp [read]

/-- What is sent for a path and a query reads back as them, if it reads at all. -/
theorem read_target_eq_ok {path : Text} {query : Option Text} {uri : Uri}
    (addressed : Addressed path query) (ok : read (Query.target path query) = .ok uri) :
    path ≠ [] ∧ uri = ⟨path, Query.nonEmpty? query⟩ := by
  have filled : path ≠ [] := by
    rintro rfl
    rcases addressed.start with ⟨rest, slash⟩ | ⟨-, no_query⟩
    · cases slash
    · rw [Query.target_of_empty no_query] at ok
      cases ok
  rw [read_target addressed filled,
    ofText_target addressed.bare addressed.whole addressed.whole_query] at ok
  split at ok
  next => cases ok
  next =>
    split at ok
    next => exact ⟨filled, (Except.ok.inj ok).symm⟩
    next => cases ok

/-- What is sent for a legal path and query reads back as them, unless it is too long. -/
theorem read_target_of_legal {path : Text} {query : Option Text} (addressed : Addressed path query)
    (legal : Legal path query) (filled : path ≠ []) :
    read (Query.target path query) =
      if maxLength < (Utf8.encode (Query.target path query)).length then .error .length
      else .ok ⟨path, Query.nonEmpty? query⟩ := by
  have characters : (path.all isPathChar && (query.getD []).all isQueryChar) = true := by
    rw [Bool.and_eq_true, List.all_eq_true, List.all_eq_true]
    exact ⟨legal.path, legal.query⟩
  rw [read_target addressed filled,
    ofText_target addressed.bare addressed.whole addressed.whole_query, if_pos characters]

/-! ## What is sent of what was read -/

theorem wire_of_ofText {t : Text} {uri : Uri} (here : IsOrigin t) (read : ofText t = .ok uri) :
    uri.wire = withoutFragment t := by
  obtain ⟨written, query⟩ := uri
  obtain ⟨-, whole⟩ := ofText_eq_ok read
  cases query with
  | some query => exact whole.symm
  | none =>
    have kept : withoutFragment t = written := whole.trans (List.append_nil written)
    have filled : written ≠ [] := by
      rw [← kept]
      rcases here with ⟨rest, rfl⟩ | rfl
      · exact List.cons_ne_nil '/' _
      · exact List.cons_ne_nil '*' _
    rw [kept, wire, if_neg (by simpa using filled)]

theorem wire_cons (c : Char) (path : Text) (query : Option Text) :
    ∃ rest, wire ⟨c :: path, query⟩ = c :: rest := by
  cases query with
  | none => exact ⟨path, rfl⟩
  | some query => exact ⟨path ++ '?' :: query, rfl⟩

/-- What follows a server is sent from the root on. -/
theorem wire_rooted {after : Text} {uri : Uri}
    (start : after = [] ∨ ∃ c rest, after = c :: rest ∧ (c = '/' ∨ c = '?' ∨ c = '#'))
    (read : ofText after = .ok uri) : ∃ rest, uri.rooted.wire = '/' :: rest := by
  obtain ⟨written, query⟩ := uri
  cases written with
  | nil => exact wire_cons '/' [] query
  | cons d path =>
    have slash : d = '/' := by
      rcases start with rfl | ⟨c, rest, rfl, first⟩
      · cases read
      · obtain ⟨rfl, mark, fragment⟩ := head_of_ofText read
        exact first.resolve_right (by simp [mark, fragment])
    rw [slash]
    exact wire_cons '/' path query

/-- What was read is sent character by character exactly when it named no server and had no
fragment. -/
theorem wire_eq_iff_of_read {t : Text} {uri : Uri} (ok : read t = .ok uri) :
    uri.wire = t ↔ IsOrigin t ∧ '#' ∉ t := by
  -- Behind a server, or for one alone, a path is sent, and what was read is none.
  have apart (foreign : ¬ IsOrigin t) (path : ∃ rest, uri.wire = '/' :: rest) :
      uri.wire = t ↔ IsOrigin t ∧ '#' ∉ t := by
    obtain ⟨rest, sent⟩ := path
    refine iff_of_false (fun whole => ?_) fun both => foreign both.1
    exact foreign (.inl ⟨rest, whole.symm.trans sent⟩)
  cases readFrom_of_read ok with
  | origin here inside =>
    rw [wire_of_ofText here inside, and_iff_right here]
    refine ⟨fun whole => ?_, withoutFragment_of_not_mem⟩
    rw [← whole]
    exact mark_not_mem_withoutFragment t
  | server foreign => exact apart foreign ⟨[], rfl⟩
  | absolute foreign start inside => exact apart foreign (wire_rooted start inside)

end UploadInbox.Uri
