import UploadInbox.Proofs.Http.Uri
import UploadInbox.Proofs.Route.Rules
import UploadInbox.Proofs.Route.Scoping

/-!
# Targets that are sent as they are

The target of a request that was read is a path and a query as a request target gives them: no rule
of routing brings in a mark that would part them anew.
-/
namespace UploadInbox.Route

/-- A confined listing brings in nothing but encoded octets and the marks between parameters. -/
theorem mem_scopeListing {query : Option Text} {user : Text} {c : Char}
    (member : c ∈ scopeListing query user) :
    c ∈ query.getD [] ∨ Query.isParameterChar c = true := by
  have named : ∀ d ∈ ("prefix=" : Text), Query.isParameterChar d = true :=
    List.all_eq_true.mp (by decide)
  have confining {value : Text} (inside : c ∈ "prefix=" ++ writtenPrefix user ++ value) :
      c ∈ value ∨ Query.isParameterChar c = true := by
    rcases List.mem_append.mp inside with inside | inside
    · rcases List.mem_append.mp inside with inside | inside
      · exact .inr (named c inside)
      · have written := Percent.isWritten_of_mem_encodeBytes inside
        exact .inr (Query.isParameterChar_of_isWritten written)
    · exact .inl inside
  rw [scopeListing, encode_append_slash] at member
  rcases Text.mem_join member with mark | ⟨item, inside, member⟩
  · rw [List.mem_singleton.mp mark]
    exact .inr (by decide)
  rcases List.mem_append.mp inside with given | added
  · obtain ⟨parameter, present, rfl⟩ := List.mem_map.mp given
    have kept {d : Char} (inside : d ∈ parameter) : d ∈ query.getD [] :=
      Text.mem_of_mem_fields (List.mem_filter.mp present).1 inside
    unfold scopeParameter at member
    split at member
    · refine (confining member).imp_left fun value => kept ?_
      by_contra absent
      exact not_mem_value absent value
    · exact .inl (kept member)
  · split at added
    · cases added
    · rw [List.mem_singleton.mp added, ← List.append_nil (_ ++ _)] at member
      exact .inr ((confining member).resolve_left List.not_mem_nil)

theorem fragment_not_mem_scopeListing {query : Option Text} (user : Text)
    (whole : '#' ∉ query.getD []) : '#' ∉ scopeListing query user := by
  intro member
  rcases mem_scopeListing member with given | brought
  · exact whole given
  · cases brought

theorem isQueryChar_of_mem_scopeListing {query : Option Text} {user : Text}
    (legal : ∀ c ∈ query.getD [], Uri.isQueryChar c = true) :
    ∀ c ∈ scopeListing query user, Uri.isQueryChar c = true := by
  intro c member
  rcases mem_scopeListing member with given | brought
  · exact legal c given
  · exact Uri.isQueryChar_of_isParameterChar brought

theorem addressed_slash {path : Text} {query : Option Text} (bare : '?' ∉ path)
    (whole : '#' ∉ path) (whole_query : '#' ∉ query.getD []) :
    Uri.Addressed ('/' :: path) query :=
  ⟨by simp [bare], by simp [whole], whole_query, .inl ⟨path, rfl⟩⟩

/-- A target leads from path and query of a request to path and query of another. -/
theorem Routed.addressed {method : Method} {path : Text} {query : Option Text} {bucket user : Text}
    {target : Target} (routed : Routed method path query bucket user target)
    (addressed : Uri.Addressed path query) (bare : '?' ∉ bucket) (whole : '#' ∉ bucket) :
    Uri.Addressed target.path target.query := by
  have whole_query : '#' ∉ (Query.nonEmpty? query).getD [] := by
    rw [Query.getD_nonEmpty?]
    exact addressed.whole_query
  cases routed with
  | location => exact addressed_slash (by simp [bare]) (by simp [whole]) whole_query
  | listing =>
    exact addressed_slash (by simp [bare]) (by simp [whole])
      (fragment_not_mem_scopeListing user addressed.whole_query)
  | stored which split object =>
    rename_i segment rest
    have parts {c : Char} (absent : c ∉ path) : c ∉ segment ∧ c ∉ rest :=
      not_or.mp fun member => absent (Namespace.mem_of_split? split member)
    have no_query := parts addressed.bare
    have no_fragment := parts addressed.whole
    refine addressed_slash ?_ ?_ whole_query
    · simp [bare, no_query]
    · simp [whole, no_fragment]
  | passThrough =>
    refine ⟨addressed.bare, addressed.whole, whole_query, ?_⟩
    rw [Query.getD_nonEmpty?]
    exact addressed.start

theorem Routed.filled {method : Method} {path : Text} {query : Option Text} {bucket user : Text}
    {target : Target} (routed : Routed method path query bucket user target) (filled : path ≠ []) :
    target.path ≠ [] := by
  cases routed with
  | location | listing | stored => exact List.cons_ne_nil _ _
  | passThrough => exact filled

/-- Path and query of a target are as legal as what the request was addressed to. -/
theorem Routed.legal {method : Method} {path : Text} {query : Option Text} {bucket user : Text}
    {target : Target} (routed : Routed method path query bucket user target)
    (legal : Uri.Legal path query) (plain : ∀ c ∈ bucket, isPlain c = true) :
    Uri.Legal target.path target.query := by
  have legal_query : ∀ c ∈ (Query.nonEmpty? query).getD [], Uri.isQueryChar c = true := by
    rw [Query.getD_nonEmpty?]
    exact legal.query
  have legal_bucket : ∀ c ∈ bucket, Uri.isPathChar c = true :=
    fun c member => Uri.isPathChar_of_isPlain (plain c member)
  have slash : Uri.isPathChar '/' = true := by decide
  have root : ∀ c ∈ rootOf bucket, Uri.isPathChar c = true := by
    simpa [rootOf, slash, or_imp, forall_and] using legal_bucket
  cases routed with
  | location => exact ⟨root, legal_query⟩
  | listing => exact ⟨root, isQueryChar_of_mem_scopeListing legal.query⟩
  | stored which split object =>
    rename_i segment rest
    have part {c : Char} (member : c ∈ segment ∨ c ∈ rest) : Uri.isPathChar c = true :=
      legal.path c (Namespace.mem_of_split? split member)
    refine ⟨fun c member => ?_, legal_query⟩
    simp only [List.cons_append, List.append_assoc, List.mem_cons, List.mem_append] at member
    rcases member with rfl | bucket | rfl | segment | rfl | rest
    · exact slash
    · exact legal_bucket c bucket
    · exact slash
    · exact part (.inl segment)
    · exact slash
    · exact part (.inr rest)
  | passThrough => exact ⟨legal.path, legal_query⟩

end UploadInbox.Route
