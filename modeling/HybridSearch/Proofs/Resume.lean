import HybridSearch.Proofs.Search

/-!
# Going on from a page

The cursor of a page names its last hit. If that hit can be named, the request that goes on is as
sound as the request for the page and is answered from what the page left of the ranking. If it
cannot, because its score has overflowed or its id is empty, the server refuses the cursor that it
has issued itself.
-/

namespace HybridSearch

/-- A hit that a cursor can name. -/
def CombinedHit.IsReadable (h : CombinedHit) : Prop := h.total.isFinite ∧ h.id ≠ ""

theorem Cursor.not_isStale_ofHit (h : CombinedHit) (fingerprint : String) :
    (Cursor.ofHit h fingerprint).isStale fingerprint = false := by
  simp [Cursor.ofHit, Cursor.isStale]

section

variable {e : Engine} {w : Weights} {r : SearchRequest} {plan : Plan} {found : List StrategyResult}

/-- A page with a cursor ends with a hit of the ranking, and the cursor leads to what follows. -/
theorem Engine.page_next_cases {c : Cursor} (hnext : (e.page r plan found).next = some c) :
    ∃ h ∈ plan.pool found, c = Cursor.ofHit h plan.weights.fingerprint ∧
      r.pageSize < (pageAfter (plan.pool found) plan.cursor).length ∧
      pageAfter (plan.pool found) (some c)
        = (pageAfter (plan.pool found) plan.cursor).drop r.pageSize := by
  obtain ⟨-, hnone⟩ | ⟨front, h, rest, hafter, hfront, hrest, hsome⟩ :=
    Page.cut_next_cases (plan.pool found) plan.weights.fingerprint r.pageSize_pos plan.cursor
  · cases hnone.symm.trans hnext
  · refine ⟨h, (pageAfter_suffix _ plan.cursor).subset (by simp [hafter]), ?_, ?_,
      Page.pageAfter_next r.pageSize_pos nodup_pool hnext⟩
    · exact Option.some.inj (hnext.symm.trans hsome)
    · rw [hafter, List.length_append, List.length_cons, ← hfront]
      have hsomeLeft := List.length_pos_iff.mpr hrest
      omega

theorem Engine.length_le_of_page_next_none (hnext : (e.page r plan found).next = none) :
    (pageAfter (plan.pool found) plan.cursor).length ≤ r.pageSize := by
  obtain ⟨hle, -⟩ | ⟨-, h, -, -, -, -, hsome⟩ :=
    Page.cut_next_cases (plan.pool found) plan.weights.fingerprint r.pageSize_pos plan.cursor
  · exact hle
  · cases hsome.symm.trans hnext

/-- The request that goes on from a hit that can be named is sound under the same weights. -/
theorem Plan.ofRequest_resume (hplan : Plan.ofRequest e.indexBase w r = .ok plan) {h : CombinedHit}
    (hread : h.IsReadable) :
    Plan.ofRequest e.indexBase w (r.resume (.ofHit h plan.weights.fingerprint))
      = .ok { plan with cursor := some (.ofHit h plan.weights.fingerprint) } := by
  have hweights := (Plan.ofRequest_eq_ok_iff.mp hplan).2.2.2.2.1
  exact (Plan.ofRequest_resume_eq_ok_iff hplan).mpr
    ⟨hread, hweights, Cursor.not_isStale_ofHit h _, rfl⟩

/-- A cursor that was issued is refused exactly when its hit has no finite score or no id. -/
theorem issued_cursor_refused_iff {p : SearchResponse} {c : Cursor}
    (hsearch : (e.search w r).value = .ok p)
    (hnext : p.next = some c) :
    ∃ pool, e.ranking w r = .ok pool ∧ ∃ h ∈ pool, c.score = h.total ∧ c.id = h.id ∧
      ((∃ cause, (e.search w (r.resume c)).value = .error (.invalid cause)) ↔
        ¬ (h.total.isFinite ∧ h.id ≠ "")) ∧
      (h.total.isFinite ∧ h.id ≠ "" → ∃ p', (e.search w (r.resume c)).value = .ok p') := by
  obtain ⟨plan, found, hplan, hfound, rfl⟩ := e.search_eq_ok_iff.mp hsearch
  obtain ⟨h, hmem, rfl, -, -⟩ := e.page_next_cases hnext
  have hserved (hread : h.IsReadable) :
      (e.search w (r.resume (.ofHit h plan.weights.fingerprint))).value
      = .ok (e.page r { plan with cursor := some (.ofHit h plan.weights.fingerprint) } found) :=
    e.search_eq_ok_iff.mpr ⟨_, found, Plan.ofRequest_resume hplan hread, hfound, rfl⟩
  refine ⟨plan.pool found, e.ranking_eq_ok hplan hfound, h, hmem, rfl, rfl, ⟨?_, ?_⟩,
    fun hread => ⟨_, hserved hread⟩⟩
  · rintro ⟨cause, hrefused⟩ hread
    cases (hserved hread).symm.trans hrefused
  · intro hread
    have hinvalid := Plan.ofRequest_resume_of_not_isReadable w hplan
      (c := .ofHit h plan.weights.fingerprint) hread
    exact ⟨_, by rw [e.search_of_invalid hinvalid]; rfl⟩

end

/-- An engine without services, whose backend finds the same documents for every query. -/
def Engine.ofHits (hits : List Hit) : Engine where
  sources := ⟨⟨[]⟩, fun _ => [], none, 0⟩
  embedder := none
  embedPatience := 0
  reranker := none
  rerankPatience := 0
  backend := fun _ bodies => .ok (bodies.map fun _ => ⟨0, hits.length, false, hits, none⟩)
  indexBase := "resources"
  poolSize := 300

def SearchRequest.codeOneByOne : SearchRequest :=
  { SearchRequest.empty with query := some "BD", limit := some 1 }

def Weights.keywordsMost : Weights := { Weights.default with strategies := ⟨1, 10, 1⟩ }

/-- Both scores are finite, but ten times the first is not. -/
def overflowingHits : List Hit := [⟨"a", .ofFloat 1e308, .null⟩, ⟨"b", .ofFloat 1, .null⟩]

def Plan.codeOneByOne : Plan := ⟨"resources_en", ⟨none, [], [], []⟩, none, none, .keywordsMost⟩

def overflowingResult : StrategyResult :=
  ⟨"keyword_original", .ofFloat 10, 0, 2, false, overflowingHits, none⟩

theorem plan_codeOneByOne :
    Plan.ofRequest "resources" .keywordsMost .codeOneByOne = .ok .codeOneByOne := rfl

/-- The first page ends with a document without a finite score, and another document follows. -/
theorem search_overflowing : ∃ p c,
    ((Engine.ofHits overflowingHits).search .keywordsMost .codeOneByOne).value = .ok p ∧
      p.next = some c ∧ ¬ c.IsReadable := by
  have htotals : (Plan.codeOneByOne.pool [overflowingResult]).map (·.total.isFinite)
      = [false, true] := by
    rw [Plan.pool, combine_eq_insertionSort]
    decide +kernel
  have hfound : (Engine.ofHits overflowingHits).retrieve .codeOneByOne .codeOneByOne
      = .ok [overflowingResult] := by
    rfl
  obtain ⟨first, rest, hpool, hfirst, hrest⟩ := List.map_eq_cons_iff.mp htotals
  obtain ⟨second, rest, rfl, -, -⟩ := List.map_eq_cons_iff.mp hrest
  refine ⟨_, .ofHit first Weights.keywordsMost.fingerprint,
    (Engine.search_eq_ok_iff _).mpr ⟨_, _, plan_codeOneByOne, hfound, rfl⟩, ?_, ?_⟩
  · rw [Engine.page_next, hpool]
    rfl
  · intro hread
    simpa [Cursor.ofHit, hfirst] using hread.1

theorem issued_cursor_refused_overflowing : ∃ p c,
    ((Engine.ofHits overflowingHits).search .keywordsMost .codeOneByOne).value = .ok p ∧
      p.next = some c ∧ ∃ cause, ((Engine.ofHits overflowingHits).search .keywordsMost
        (SearchRequest.codeOneByOne.resume c)).value
        = .error (.invalid cause) := by
  obtain ⟨p, c, hsearch, hnext, hread⟩ := search_overflowing
  obtain ⟨-, -, h, -, hscore, hid, hrefused, -⟩ := issued_cursor_refused_iff hsearch hnext
  exact ⟨p, c, hsearch, hnext, hrefused.mpr fun hnamed => hread ⟨hscore ▸ hnamed.1, hid ▸ hnamed.2⟩⟩

/-- A server with weights in bounds and a backend with finite scores may refuse a cursor that it
issued. -/
theorem exists_issued_cursor_refused :
    ∃ (e : Engine) (w : Weights) (r : SearchRequest) (p : SearchResponse)
    (c : Cursor), w.isValid ∧
      (∀ index bodies answers, e.backend index bodies = .ok answers →
        ∀ answer ∈ answers, ∀ h ∈ answer.hits, h.score.isFinite ∧ h.id ≠ "") ∧
      (e.search w r).value = .ok p ∧ p.next = some c ∧
      ∃ cause, (e.search w (r.resume c)).value = .error (.invalid cause) := by
  obtain ⟨p, c, hsearch, hnext, hread⟩ := search_overflowing
  refine ⟨_, _, _, p, c, by decide +kernel, ?_, hsearch, hnext, ?_⟩
  · intro index bodies answers hanswers answer hmem
    cases hanswers
    obtain ⟨-, -, rfl⟩ := List.mem_map.mp hmem
    show ∀ h ∈ overflowingHits, h.score.isFinite ∧ h.id ≠ ""
    decide +kernel
  · have hinvalid := Plan.ofRequest_resume_of_not_isReadable .keywordsMost plan_codeOneByOne hread
    exact ⟨_, congrArg Traced.value ((Engine.ofHits overflowingHits).search_of_invalid hinvalid)⟩

end HybridSearch
