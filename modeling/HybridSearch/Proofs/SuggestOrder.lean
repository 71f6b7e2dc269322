import HybridSearch.Proofs.SuggestPages
import HybridSearch.Proofs.Window
import Mathlib.Data.List.Flatten

/-!
# Suggestions from page to page

A deeper page may find that the documents of the earlier ones have changed places, and then shows
one of them again or passes over another. The pages show every document once exactly as long as the
places that were shown keep their documents. They do where no document answers two queries and every
query ranks its documents in the order in which they will be fused: what a deeper page adds then
comes after everything that the pages before have asked for.
-/

namespace HybridSearch.Suggester

open Query

variable {s : Suggester} {plan : SuggestPlan} {c : Context} {ranked : String → List Hit}

/-- A document as a query alone would have it suggested. -/
def suggested (q : ProcessedQuery) (h : Hit) : CombinedHit :=
  h.alone q.strategy (.ofFloat q.type.weight)

/-- The lists of the queries have no document in common, and each is in the order of fusion. -/
structure Settled (c : Context) (ranked : String → List Hit) : Prop where
  separate : (c.processed.flatMap fun q => (ranked q.text).map (·.id)).Nodup
  ordered : ∀ q ∈ c.processed,
    (ranked q.text).Pairwise fun a b => (suggested q a).notAfter (suggested q b)

namespace Settled

variable (hsettled : Settled c ranked)

include hsettled

theorem nodup_ids {q : ProcessedQuery} (hq : q ∈ c.processed) :
    ((ranked q.text).map (·.id)).Nodup :=
  (List.nodup_flatMap.mp hsettled.separate).1 q hq

theorem mem_combine_iff {size : Nat} {results : List StrategyResult}
    (hresults : HoldFirst c ranked size results) {x : CombinedHit} :
    x ∈ combine results none ↔
      ∃ q ∈ c.processed, ∃ h ∈ (ranked q.text).take size, suggested q h = x := by
  have hids : (allHits results).map (·.2.id)
      = c.processed.flatMap fun q => ((ranked q.text).take size).map (·.id) := by
    have hhits := congrArg (List.flatMap fun x => x.2.2.map (·.id)) hresults
    simpa [allHits, List.map_flatMap, List.flatMap_map, Function.comp_def] using hhits
  have hnodup : ((allHits results).map (·.2.id)).Nodup := by
    rw [hids]
    exact hsettled.separate.sublist
      (List.Sublist.flatMap_right _ fun q _ => (List.take_sublist _ _).map _)
  rw [mem_combine_iff_of_nodup _ hnodup]
  exact hresults.exists_iff fun found => ∃ h ∈ found.2.2, h.alone found.1 found.2.1 = x

/-- A document that a query ranks after the first ones has them before it in every deeper pool. -/
theorem not_mem_take_of_late {n size : Nat} (hle : n ≤ size) {results : List StrategyResult}
    (hresults : HoldFirst c ranked size results)
    {q : ProcessedQuery} (hq : q ∈ c.processed) {h : Hit} (hlate : h ∈ (ranked q.text).drop n) :
    suggested q h ∉ (combine results none).take n := by
  have hlength : ((ranked q.text).take n).length = n := by
    have hmore := List.length_pos_of_mem hlate
    rw [List.length_drop] at hmore
    exact List.length_take_of_le (by omega)
  have hnodup := hsettled.nodup_ids hq
  have hordered := hsettled.ordered q hq
  rw [← List.take_append_drop n (ranked q.text), List.map_append, List.nodup_append] at hnodup
  rw [← List.take_append_drop n (ranked q.text), List.pairwise_append] at hordered
  have hearlier : ∀ y ∈ ((ranked q.text).take n).map (suggested q),
      y ∈ combine results none ∧ y.notAfter (suggested q h) ∧ y.id ≠ (suggested q h).id := by
    intro y hy
    obtain ⟨g, hg, rfl⟩ := List.mem_map.mp hy
    refine ⟨?_, hordered.2.2 g hg h hlate,
      hnodup.2.2 _ (List.mem_map_of_mem hg) _ (List.mem_map_of_mem hlate)⟩
    exact (hsettled.mem_combine_iff hresults).mpr
      ⟨q, hq, g, List.take_subset_take_left _ hle hg, rfl⟩
  have hids : (((ranked q.text).take n).map (suggested q)).map (·.id)
      = ((ranked q.text).take n).map (·.id) := by
    rw [List.map_map]
    rfl
  have hfirst := not_mem_take_combine (hids ▸ hnodup.1) hearlier
  rwa [List.length_map, hlength] at hfirst

/-- The places that earlier pages show stay as they are in the pool of the next page. -/
theorem take_pool_succ (hranks : s.Ranks plan.index c ranked) (page : Nat) :
    (s.pool plan c (page + 1)).take (page * SuggestPlan.pageSize)
      = (s.pool plan c page).take (page * SuggestPlan.pageSize) := by
  obtain ⟨results, hexecute, hresults⟩ := execute_of_ranks hranks page
  obtain ⟨results', hexecute', hresults'⟩ := execute_of_ranks hranks (page + 1)
  have hle : page * SuggestPlan.pageSize ≤ (page + 1) * SuggestPlan.pageSize :=
    Nat.mul_le_mul_right _ (Nat.le_succ page)
  simp only [pool, hexecute, hexecute']
  -- What the deeper pool adds stands in the list of its query after all that was asked for before.
  refine take_combine_eq (fun x hx => ?_) fun x hx hunknown => ?_
  · obtain ⟨q, hq, h, hh, rfl⟩ := (hsettled.mem_combine_iff hresults).mp hx
    exact (hsettled.mem_combine_iff hresults').mpr
      ⟨q, hq, h, List.take_subset_take_left _ hle hh, rfl⟩
  · obtain ⟨q, hq, h, hh, rfl⟩ := (hsettled.mem_combine_iff hresults').mp hx
    have hlate : h ∈ (ranked q.text).drop (page * SuggestPlan.pageSize) := by
      have hmem := List.mem_of_mem_take hh
      rw [← List.take_append_drop (page * SuggestPlan.pageSize) (ranked q.text),
        List.mem_append] at hmem
      refine hmem.resolve_left fun hfirst => hunknown ?_
      have hfound := (hsettled.mem_combine_iff hresults).mpr ⟨q, hq, h, hfirst, rfl⟩
      exact (ids_combine_perm results none).mem_iff.mp (List.mem_map_of_mem hfound)
    exact hsettled.not_mem_take_of_late hle hresults' hq hlate

theorem ids_take_pool_succ (hranks : s.Ranks plan.index c ranked) (page : Nat) :
    (((s.pool plan c (page + 1)).map (·.id)).take (page * SuggestPlan.pageSize)).Perm
      (((s.pool plan c page).map (·.id)).take (page * SuggestPlan.pageSize)) := by
  rw [← List.map_take, ← List.map_take, hsettled.take_pool_succ hranks]

end Settled

/-- Pages of suggestions show every document of the first places once as long as the documents of
the places shown stay the same from page to page, and not otherwise. In a settled order they do. -/
theorem suggestion_pages_partition_iff {r : SuggestRequest}
    (hplan : SuggestPlan.ofRequest s.indexBase r = .ok plan)
    (hranks : s.Ranks plan.index (s.context .v3 r.disableIntent plan.input) ranked) {last : Nat}
    (hlast : last ≤ maxSuggestPage) :
    let pooled page := (s.pool plan (s.context .v3 r.disableIntent plan.input) page).map (·.id)
    let shown page := slice SuggestPlan.pageSize (page - 1) (pooled page)
    let places page := page * SuggestPlan.pageSize
    let kept := ∀ page, 1 ≤ page → page < last →
      ((pooled (page + 1)).take (places page)).Perm ((pooled page).take (places page))
    (∀ page, 1 ≤ page → page ≤ last →
        ∃ answer, (s.suggest .v3 (r.atPage page)).value = .ok answer ∧ answer.ids = shown page) ∧
      ((∀ page page', 1 ≤ page → page < page' → page' ≤ last →
        List.Disjoint (shown page) (shown page')) ∧
        (∀ page, 1 ≤ page → page ≤ last → ∀ id ∈ (pooled page).take (places page),
          ∃! page', (1 ≤ page' ∧ page' ≤ page) ∧ id ∈ shown page') ↔ kept) ∧
      (Settled (s.context .v3 r.disableIntent plan.input) ranked → kept) := by
  intro pooled shown places kept
  refine ⟨fun page hfirst hle => suggest_atPage hplan hranks hfirst (hle.trans hlast), ?_,
    fun hsettled page _ _ => hsettled.ids_take_pool_succ hranks page⟩
  have hnodup : ∀ i, (pooled (i + 1)).Nodup := fun i => nodup_pool (i + 1)
  have hgrow : ∀ i j, i ≤ j → (pooled (i + 1)).length ≤ (pooled (j + 1)).length :=
    fun i j hij => length_pool_le hranks (Nat.succ_le_succ hij)
  have hkept : kept ↔ KeepsShown SuggestPlan.pageSize (fun i => pooled (i + 1)) last := by
    constructor
    · intro h i hi
      exact h (i + 1) (by omega) hi
    · intro h page hfirst hpage
      obtain ⟨i, rfl⟩ := Nat.exists_eq_add_of_le' hfirst
      exact h i hpage
  rw [hkept, keepsShown_iff_partition SuggestPlan.pageSize last hnodup hgrow]
  refine and_congr ⟨fun h i j hi hj => h (i + 1) (j + 1) (by omega) (by omega) hj,
    fun h page page' hfirst hlt hle => ?_⟩
    ⟨fun h i hi id hid => ?_, fun h page hfirst hle id hid => ?_⟩
  · obtain ⟨i, rfl⟩ := Nat.exists_eq_add_of_le' hfirst
    obtain ⟨j, rfl⟩ := Nat.exists_eq_add_of_le' (hfirst.trans hlt.le)
    exact h i j (by omega) hle
  · obtain ⟨page', ⟨⟨hfirst, hle⟩, hmem⟩, honly⟩ := h (i + 1) (by omega) hi id hid
    obtain ⟨j, rfl⟩ := Nat.exists_eq_add_of_le' hfirst
    exact ⟨j, ⟨by omega, hmem⟩,
      fun k hk => Nat.succ.inj (honly (k + 1) ⟨⟨by omega, by omega⟩, hk.2⟩)⟩
  · obtain ⟨i, rfl⟩ := Nat.exists_eq_add_of_le' hfirst
    obtain ⟨j, ⟨hle', hmem⟩, honly⟩ := h i hle id hid
    refine ⟨j + 1, ⟨⟨by omega, by omega⟩, hmem⟩, ?_⟩
    rintro page' ⟨⟨hfirst', hle'⟩, hmem'⟩
    obtain ⟨k, rfl⟩ := Nat.exists_eq_add_of_le' hfirst'
    exact congrArg Nat.succ (honly k ⟨by omega, hmem'⟩)

theorem settled_inOrder : Settled (inOrder.context .v3 false "BD") fun _ =>
    tied ["a", "b0", "b1", "b2", "b3", "b4", "b5", "b6", "b7", "b8", "b9"] := by
  rw [inOrder, context_ofHits]
  exact ⟨by decide, by decide +kernel⟩

theorem suggestion_pages_partition_inOrder :
    List.Disjoint
      (slice 10 0 ((inOrder.pool codePlan (inOrder.context .v3 false "BD") 1).map (·.id)))
      (slice 10 1 ((inOrder.pool codePlan (inOrder.context .v3 false "BD") 2).map (·.id))) := by
  obtain ⟨-, hiff, hkept⟩ := suggestion_pages_partition_iff (s := inOrder) (r := codeRequest)
    (plan_ofHits _) (ranks_ofHits _) (show 2 ≤ maxSuggestPage by decide)
  exact (hiff.mpr (hkept settled_inOrder)).1 1 2 (Nat.le_refl 1) (Nat.lt_succ_self 1)
    (Nat.le_refl 2)

/-- A backend that orders documents of one score otherwise than by their ids makes the second page
show a document of the first again, and another not at all. -/
theorem exists_suggestion_shown_twice : ∃ (s : Suggester) (r : SuggestRequest) (plan : SuggestPlan)
    (ranked : String → List Hit) (first second : SuggestResponse),
      SuggestPlan.ofRequest s.indexBase r = .ok plan ∧
      s.Ranks plan.index (s.context .v3 r.disableIntent plan.input) ranked ∧
      (s.suggest .v3 (r.atPage 1)).value = .ok first ∧
      (s.suggest .v3 (r.atPage 2)).value = .ok second ∧
      (∃ id, id ∈ first.ids ∧ id ∈ second.ids) ∧
      ∃ id ∈ ((s.pool plan (s.context .v3 r.disableIntent plan.input) 2).map (·.id)).take 20,
        id ∉ first.ids ∧ id ∉ second.ids := by
  have hfirst : (lateFirst.pool codePlan (lateFirst.context .v3 false "BD") 1).map (·.id)
      = ["b0", "b1", "b2", "b3", "b4", "b5", "b6", "b7", "b8", "b9"] := by
    rw [lateFirst, pool_ofHits, combine_eq_insertionSort]
    decide +kernel
  have hsecond : (lateFirst.pool codePlan (lateFirst.context .v3 false "BD") 2).map (·.id)
      = ["a", "b0", "b1", "b2", "b3", "b4", "b5", "b6", "b7", "b8", "b9"] := by
    rw [lateFirst, pool_ofHits, combine_eq_insertionSort]
    decide +kernel
  obtain ⟨first, hshown, hids⟩ :=
    suggest_atPage (s := lateFirst) (r := codeRequest) (plan_ofHits _) (ranks_ofHits _)
    (Nat.le_refl 1) (by decide)
  obtain ⟨second, hshown', hids'⟩ :=
    suggest_atPage (s := lateFirst) (r := codeRequest) (plan_ofHits _) (ranks_ofHits _)
    (show 1 ≤ 2 by decide) (by decide)
  have hfirstIds := hids.trans (congrArg (slice SuggestPlan.pageSize 0) hfirst)
  have hsecondIds := hids'.trans (congrArg (slice SuggestPlan.pageSize 1) hsecond)
  refine ⟨lateFirst, codeRequest, codePlan, _, first, second, plan_ofHits _, ranks_ofHits _,
    hshown, hshown', ⟨"b9", ?_, ?_⟩, "a", ?_, ?_, ?_⟩
  · rw [hfirstIds]
    decide
  · rw [hsecondIds]
    decide
  · have hpooled : "a" ∈
        ((lateFirst.pool codePlan (lateFirst.context .v3 false "BD") 2).map (·.id)).take 20 := by
      rw [hsecond]
      decide
    exact hpooled
  · rw [hfirstIds]
    decide
  · rw [hsecondIds]
    decide

end HybridSearch.Suggester
