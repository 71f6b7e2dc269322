import HybridSearch.Search
import HybridSearch.Proofs.Cursor
import HybridSearch.Proofs.Page

/-!
# A search and the search that goes on from it

A request is refused before anything is asked, or a page is cut from one ranking. A request that
goes on from a cursor differs from the one before in the cursor alone, so whatever does not read the
cursor comes out the same.
-/

namespace HybridSearch

theorem bind_eq_ok_iff {ε α β : Type} {x : Except ε α} {f : α → Except ε β} {b : β} :
    x >>= f = .ok b ↔ ∃ a, x = .ok a ∧ f a = .ok b := by
  cases x with
  | error cause => simp [bind, Except.bind]
  | ok a => simp [bind, Except.bind]

/-- The request for the page after a cursor. -/
def SearchRequest.resume (r : SearchRequest) (c : Cursor) : SearchRequest :=
  { r with searchAfter := some c.json }

def SearchResponse.ids (p : SearchResponse) : List String := p.hits.map (·.id)

theorem SearchRequest.pageSize_pos (r : SearchRequest) : 0 < r.pageSize := Nat.le_max_left 1 _

namespace Plan

variable {indexBase : String} {w w' : Weights} {r : SearchRequest} {plan : Plan}

/-- The checks of a request one by one. -/
theorem ofRequest_eq_ok_iff : ofRequest indexBase w r = .ok plan ↔
    Index.name indexBase r.lang = .ok plan.index ∧ r.origin = .ok plan.origin ∧
      (∃ circle, r.circle plan.origin = .ok circle ∧ plan.filters = r.filters circle) ∧
      r.cursor = .ok plan.cursor ∧ r.weights w = .ok plan.weights ∧
      plan.cursor.any (·.isStale plan.weights.fingerprint) = false := by
  simp only [ofRequest, bind_eq_ok_iff]
  constructor
  · rintro ⟨index, hindex, origin, horigin, circle, hcircle, cursor, hcursor, weights,
      hweights, hplan⟩
    split at hplan
    · cases hplan
    · cases hplan
      exact ⟨hindex, horigin, ⟨circle, hcircle, rfl⟩, hcursor, hweights, Bool.eq_false_iff.mpr ‹_›⟩
  · obtain ⟨index, filters, origin, cursor, weights⟩ := plan
    rintro ⟨hindex, horigin, ⟨circle, hcircle, rfl⟩, hcursor, hweights, hfresh⟩
    refine ⟨_, hindex, _, horigin, _, hcircle, _, hcursor, _, hweights, ?_⟩
    rw [if_neg (Bool.eq_false_iff.mp hfresh)]
    rfl

theorem resume_cursor (r : SearchRequest) (c : Cursor) : (r.resume c).cursor =
    if c.score.isFinite then (if c.id = "" then .error (.cursor .id) else .ok (some c))
    else .error (.cursor .score) := by
  rw [SearchRequest.resume, SearchRequest.cursor]
  simp only [Cursor.decode_json]
  by_cases hfinite : c.score.isFinite
  · by_cases hid : c.id = "" <;> simp [hfinite, hid]
  · simp [hfinite]

theorem resume_cursor_eq_ok_iff {c : Cursor} {cursor : Option Cursor} :
    (r.resume c).cursor = .ok cursor ↔ c.IsReadable ∧ cursor = some c := by
  rw [SearchRequest.resume, SearchRequest.cursor]
  cases hdecode : Cursor.decode c.json with
  | error cause =>
      have hunreadable : ¬ c.IsReadable := by
        intro hread
        cases hdecode.symm.trans (Cursor.decode_json_of_isReadable hread)
      simp [hdecode, hunreadable]
  | ok d =>
      obtain ⟨hread, rfl⟩ := Cursor.decode_json_eq_ok_iff.mp hdecode
      simp [hdecode, hread, eq_comm]

/-- A request goes on from a cursor that can be read and is of the weights that it has now. -/
theorem ofRequest_resume_eq_ok_iff (hplan : ofRequest indexBase w r = .ok plan) {c : Cursor}
    {resumed : Plan} :
    ofRequest indexBase w' (r.resume c) = .ok resumed ↔
      c.IsReadable ∧ r.weights w' = .ok resumed.weights ∧
        c.isStale resumed.weights.fingerprint = false ∧
        resumed = { plan with cursor := some c, weights := resumed.weights } := by
  obtain ⟨hindex, horigin, ⟨circle, hcircle, hfilters⟩, -, -, -⟩ := ofRequest_eq_ok_iff.mp hplan
  rw [ofRequest_eq_ok_iff, resume_cursor_eq_ok_iff]
  constructor
  · rintro ⟨hindex', horigin', ⟨circle', hcircle', hfilters'⟩, ⟨hread, hcursor⟩, hweights, hfresh⟩
    have hsameIndex : resumed.index = plan.index := Except.ok.inj (hindex'.symm.trans hindex)
    have hsameOrigin : resumed.origin = plan.origin := Except.ok.inj (horigin'.symm.trans horigin)
    have hsameCircle : circle' = circle :=
      Except.ok.inj (hcircle'.symm.trans (hsameOrigin ▸ hcircle))
    have hsameFilters : resumed.filters = plan.filters := by
      rw [hfilters', hsameCircle, hfilters]
      rfl
    refine ⟨hread, hweights, by simpa [hcursor] using hfresh, ?_⟩
    obtain ⟨index, filters, origin, cursor, weights⟩ := resumed
    simp_all
  · rintro ⟨hread, hweights, hfresh, hresumed⟩
    rw [hresumed]
    exact ⟨hindex, horigin, ⟨circle, hcircle, hfilters⟩, ⟨hread, rfl⟩, hweights,
      by simpa using hfresh⟩

/-- A cursor that cannot be read is the only fault of a request that went through without it. -/
theorem ofRequest_resume_of_not_isReadable (w' : Weights)
    (hplan : ofRequest indexBase w r = .ok plan) {c : Cursor}
    (hread : ¬ c.IsReadable) : ofRequest indexBase w' (r.resume c)
      = .error (.cursor (if c.score.isFinite then .id else .score)) := by
  obtain ⟨hindex, horigin, ⟨circle, hcircle, -⟩, -, -, -⟩ := ofRequest_eq_ok_iff.mp hplan
  have hcursor : (r.resume c).cursor
      = .error (.cursor (if c.score.isFinite then .id else .score)) := by
    rw [resume_cursor]
    by_cases hfinite : c.score.isFinite
    · have hid : c.id = "" := by
        by_contra hid
        exact hread ⟨hfinite, hid⟩
      simp [hfinite, hid]
    · simp [hfinite]
  have hindex' : Index.name indexBase (r.resume c).lang = .ok plan.index := hindex
  have horigin' : (r.resume c).origin = .ok plan.origin := horigin
  have hcircle' : (r.resume c).circle plan.origin = .ok circle := hcircle
  simp only [ofRequest, hindex', horigin', hcircle', hcursor, bind, Except.bind]

end Plan

namespace Engine

variable (e : Engine) {w : Weights} {r : SearchRequest} {plan : Plan} {found : List StrategyResult}

/-- What the strategies of a sound request find. -/
def retrieve (r : SearchRequest) (plan : Plan) : Except BatchError (List StrategyResult) :=
  (Batch.execute e.backend plan.index
    (plan.clauses e.poolSize (e.query r) (e.signals r (e.query r)).value)).value

/-- The clauses that a sound request sends. -/
def clauses (r : SearchRequest) (plan : Plan) : List Clause :=
  plan.clauses e.poolSize (e.query r) (e.signals r (e.query r)).value

theorem retrieve_eq (r : SearchRequest) (plan : Plan) :
    e.retrieve r plan = (Batch.execute e.backend plan.index (e.clauses r plan)).value := rfl

/-- The ranking that the page of a request is cut from. -/
def ranking (w : Weights) (r : SearchRequest) : Except SearchError (List CombinedHit) :=
  match Plan.ofRequest e.indexBase w r with
  | .error cause => .error (.invalid cause)
  | .ok plan =>
    match e.retrieve r plan with
    | .error cause => .error (.backend cause)
    | .ok found => .ok (plan.pool found)

def page (r : SearchRequest) (plan : Plan) (found : List StrategyResult) : SearchResponse :=
  (e.respond r plan (e.query r) (e.signals r (e.query r)).value.intent found).value

/-- A request that is refused calls nobody. -/
theorem search_of_invalid {cause : RequestError}
    (hplan : Plan.ofRequest e.indexBase w r = .error cause) :
    e.search w r = pure (.error (.invalid cause)) := by
  unfold search
  rw [hplan]

theorem search_of_plan (hplan : Plan.ofRequest e.indexBase w r = .ok plan) : (e.search w r).value =
    match e.retrieve r plan with
    | .error cause => .error (.backend cause)
    | .ok found => .ok (e.page r plan found) := by
  unfold search
  rw [hplan]
  simp only [run, Traced.value_bind]
  change (match e.retrieve r plan with | .error _ => _ | .ok _ => _ : Traced _).value = _
  cases e.retrieve r plan <;> rfl

theorem search_eq_ok_iff {p : SearchResponse} : (e.search w r).value = .ok p ↔
    ∃ plan found, Plan.ofRequest e.indexBase w r = .ok plan ∧ e.retrieve r plan = .ok found ∧
      e.page r plan found = p := by
  cases hplan : Plan.ofRequest e.indexBase w r with
  | error cause => simp [search_of_invalid e hplan]
  | ok plan =>
      rw [search_of_plan e hplan]
      cases hfound : e.retrieve r plan with
      | error cause => simp [hfound]
      | ok found => simp [hfound]

theorem ranking_eq_ok (hplan : Plan.ofRequest e.indexBase w r = .ok plan)
    (hfound : e.retrieve r plan = .ok found) : e.ranking w r = .ok (plan.pool found) := by
  unfold ranking
  rw [hplan]
  simp only [hfound]

@[simp]
theorem page_next : (e.page r plan found).next
    = (Page.cut (plan.pool found) plan.cursor r.pageSize plan.weights.fingerprint).next := rfl

theorem nodup_pool : ((plan.pool found).map (·.id)).Nodup := nodup_ids_combine _ _

/-- The hits that a page is cut with, as they are before any reranking. -/
def cutHits (r : SearchRequest) (plan : Plan) (found : List StrategyResult) : List CombinedHit :=
  (pageAfter (plan.pool found) plan.cursor).take r.pageSize

theorem nodup_cutHits : ((cutHits r plan found).map (·.id)).Nodup := by
  have hpool : ((plan.pool found).map (·.id)).Nodup := nodup_pool
  exact hpool.sublist (((List.take_sublist _ _).trans (pageAfter_suffix _ _).sublist).map _)

/-- The helpers are called about the query, then the backend, and the reranker last. -/
theorem search_calls_of_plan (hplan : Plan.ofRequest e.indexBase w r = .ok plan) :
    (e.search w r).calls = (e.signals r (e.query r)).calls ++
      ((Batch.execute e.backend plan.index (e.clauses r plan)).calls ++
        match e.retrieve r plan with
        | .error _ => []
        | .ok found => (Page.rerank e.rerankPatience (cutHits r plan found) e.reranker
            ((e.query r).map (·.text))).calls) := by
  unfold search
  rw [hplan]
  simp only [run, Traced.calls_bind]
  change _ ++ (_ ++
    (match e.retrieve r plan with | .error _ => _ | .ok _ => _ : Traced _).calls) = _
  cases e.retrieve r plan with
  | error cause => rfl
  | ok found =>
      simp only [respond, Traced.calls_map, Traced.calls_bind, Traced.calls_pure, List.append_nil]
      rfl

/-- A page shows the hits that were cut for it, perhaps in another order. -/
theorem page_hits_perm : (e.page r plan found).hits.Perm ((cutHits r plan found).map
    (.ofHit r.excludeServiceArea ((e.query r).elim [] (·.keywords.terms)))) := by
  have hnodup : ((cutHits r plan found).map (·.id)).Nodup := nodup_cutHits
  have hhits := Page.rerank_perm hnodup e.rerankPatience e.reranker ((e.query r).map (·.text))
  exact hhits.map _

theorem page_ids_perm : (e.page r plan found).ids.Perm
    (((pageAfter (plan.pool found) plan.cursor).take r.pageSize).map (·.id)) := by
  have hhits : (e.page r plan found).hits.Perm _ := e.page_hits_perm
  simpa [SearchResponse.ids, cutHits, ResponseHit.ofHit, Function.comp_def] using hhits.map (·.id)

end Engine

end HybridSearch
