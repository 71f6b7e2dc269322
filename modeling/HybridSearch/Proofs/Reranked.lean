import HybridSearch.Proofs.Search

/-!
# What a reranker may change

The page is cut and its cursor made before a reranker is asked, and of the answer no more is read
than an order of ids. So whatever two rerankers answer, and whether they answer at all, a search
fails with both or succeeds with both, and then the same hits are shown in some order.
-/

namespace HybridSearch

namespace Engine

variable (e : Engine) {r : SearchRequest} {plan : Plan} {found : List StrategyResult}

def withReranker (reranker : Option Reranker) (patience : Nat) : Engine :=
  { e with reranker := reranker, rerankPatience := patience }

/-- Ids are not shown twice on a page, so a hit is known by its id. -/
theorem nodup_page_ids : (e.page r plan found).ids.Nodup := by
  have hids : (e.page r plan found).ids.Perm ((cutHits r plan found).map (·.id)) := e.page_ids_perm
  exact hids.nodup_iff.mpr nodup_cutHits

section

variable {reranker : Option Reranker} {patience : Nat}

/-- All of a page but the order of its hits is there before the reranker is asked. -/
theorem page_withReranker : (e.withReranker reranker patience).page r plan found
    = { e.page r plan found with
        hits := ((e.withReranker reranker patience).page r plan found).hits } := rfl

theorem page_hits_withReranker_perm :
    ((e.withReranker reranker patience).page r plan found).hits.Perm
      (e.page r plan found).hits := by
  have hhits : (e.page r plan found).hits.Perm _ := e.page_hits_perm
  have hother : ((e.withReranker reranker patience).page r plan found).hits.Perm _ :=
    (e.withReranker reranker patience).page_hits_perm
  exact hother.trans hhits.symm

end

/-- Under two rerankers a search fails in the same way or shows the same hits, each with the same
score, sources and text, in a response that is otherwise the same. -/
theorem search_withReranker (w : Weights) (r : SearchRequest) (reranker : Option Reranker)
    (patience : Nat) :
    (∃ cause, (e.search w r).value = .error cause ∧
      ((e.withReranker reranker patience).search w r).value = .error cause) ∨
    ∃ p p', (e.search w r).value = .ok p ∧
      ((e.withReranker reranker patience).search w r).value = .ok p' ∧
      p' = { p with hits := p'.hits } ∧ p'.hits.Perm p.hits ∧
      ∀ h ∈ p.hits, ∀ h' ∈ p'.hits, h'.id = h.id → h' = h := by
  cases hplan : Plan.ofRequest e.indexBase w r with
  | error cause =>
      left
      refine ⟨.invalid cause, ?_, ?_⟩
      · rw [e.search_of_invalid hplan, Traced.value_pure]
      · rw [(e.withReranker reranker patience).search_of_invalid hplan, Traced.value_pure]
  | ok plan =>
      have hsearch := e.search_of_plan hplan
      have hother := (e.withReranker reranker patience).search_of_plan hplan
      have hretrieve : (e.withReranker reranker patience).retrieve r plan = e.retrieve r plan := rfl
      rw [hretrieve] at hother
      cases hfound : e.retrieve r plan with
      | error cause =>
          left
          rw [hfound] at hsearch hother
          exact ⟨.backend cause, hsearch, hother⟩
      | ok found =>
          right
          rw [hfound] at hsearch hother
          have hperm : ((e.withReranker reranker patience).page r plan found).hits.Perm _ :=
            e.page_hits_withReranker_perm
          refine ⟨_, _, hsearch, hother, e.page_withReranker, hperm, ?_⟩
          intro h hmem h' hmem' hid
          exact List.inj_on_of_nodup_map e.nodup_page_ids (hperm.subset hmem') hmem hid

end Engine

end HybridSearch
