import HybridSearch.Proofs.Resume
import HybridSearch.Proofs.Slice

/-!
# Walks through a ranking

A walk asks for one page after another, each time with the cursor of the page before, until a page
comes without one. While the weights stay as they are every request of a walk is answered from the
same ranking, and what its cursor leads to is what the pages before have left of it.
-/

namespace HybridSearch

/-- The answers to a request and to the requests that go on from it. -/
inductive Walk (e : Engine) (w : Weights) : SearchRequest → List SearchResponse → Prop where
  | last {r : SearchRequest} {p : SearchResponse} :
      (e.search w r).value = .ok p → p.next = none → Walk e w r [p]
  | more {r : SearchRequest} {p : SearchResponse} {c : Cursor} {pages : List SearchResponse} :
      (e.search w r).value = .ok p → p.next = some c → Walk e w (r.resume c) pages →
      Walk e w r (p :: pages)

/-- Pages that show all slices of some documents, one after another. -/
structure ShowSlices (limit total : Nat) (order : List String) (pages : List SearchResponse) :
    Prop where
  count : pages.length = sliceCount limit order.length
  shown : ∀ (i : Nat) (p : SearchResponse), pages[i]? = some p →
    p.total = total ∧ p.ids.Perm (slice limit i order)

namespace ShowSlices

variable {limit total : Nat} {order : List String} {p : SearchResponse}
  {pages : List SearchResponse}

theorem single (hpos : 0 < limit) (hle : order.length ≤ limit) (htotal : p.total = total)
    (hids : p.ids.Perm (order.take limit)) : ShowSlices limit total order [p] := by
  constructor
  · exact (sliceCount_of_le hpos hle).symm
  · intro i q hq
    rw [List.getElem?_singleton] at hq
    split at hq
    · cases hq
      subst i
      exact ⟨htotal, slice_zero order ▸ hids⟩
    · cases hq

theorem cons (hpos : 0 < limit) (hlt : limit < order.length) (htotal : p.total = total)
    (hids : p.ids.Perm (order.take limit))
    (hrest : ShowSlices limit total (order.drop limit) pages) :
    ShowSlices limit total order (p :: pages) := by
  constructor
  · rw [List.length_cons, hrest.count, List.length_drop, sliceCount_of_lt hpos hlt]
  · intro i q hq
    cases i with
    | zero =>
        obtain rfl : p = q := by simpa using hq
        exact ⟨htotal, slice_zero order ▸ hids⟩
    | succ i =>
        rw [slice_succ]
        exact hrest.shown i q hq

variable (hpages : ShowSlices limit total order pages)

include hpages

theorem ids_perm (hpos : 0 < limit) : (pages.flatMap (·.ids)).Perm order := by
  have hslices := flatMap_slices_perm fun i p hp => (hpages.shown i p hp).2
  rwa [List.take_of_length_le] at hslices
  rw [hpages.count]
  exact le_sliceCount_mul hpos

/-- Only the last page may be short. -/
theorem length_hits (hpos : 0 < limit) {i : Nat} (hp : pages[i]? = some p)
    (hlast : i + 1 < pages.length) : p.hits.length = limit := by
  have hfull : (i + 1) * limit ≤ order.length := mul_le_of_lt_sliceCount hpos (hpages.count ▸ hlast)
  simpa [SearchResponse.ids, length_slice hfull] using (hpages.shown i p hp).2.length_eq

end ShowSlices

namespace Walk

variable {e : Engine} {w : Weights} {r : SearchRequest} {plan : Plan} {found : List StrategyResult}

theorem unique {pages pages' : List SearchResponse} (hwalk : Walk e w r pages)
    (hwalk' : Walk e w r pages') : pages = pages' := by
  induction hwalk generalizing pages' with
  | last hsearch hnext =>
      cases hwalk' with
      | last hsearch' hnext' => simpa using hsearch.symm.trans hsearch'
      | more hsearch' hnext' hrest' =>
          cases Except.ok.inj (hsearch.symm.trans hsearch')
          cases hnext.symm.trans hnext'
  | more hsearch hnext hrest ih =>
      cases hwalk' with
      | last hsearch' hnext' =>
          cases Except.ok.inj (hsearch.symm.trans hsearch')
          cases hnext.symm.trans hnext'
      | more hsearch' hnext' hrest' =>
          cases Except.ok.inj (hsearch.symm.trans hsearch')
          cases hnext.symm.trans hnext'
          rw [ih hrest']

/-- A walk shows the slices of what its first request leads to. -/
theorem exists_of_plan (hplan : Plan.ofRequest e.indexBase w r = .ok plan)
    (hfound : e.retrieve r plan = .ok found) (hread : ∀ h ∈ plan.pool found, h.IsReadable)
    {rest : List CombinedHit} (hrest : pageAfter (plan.pool found) plan.cursor = rest) :
    ∃ pages, Walk e w r pages ∧
      ShowSlices r.pageSize (plan.pool found).length (rest.map (·.id)) pages := by
  -- Every page that is not the last leaves less of the ranking to the pages after it.
  induction hlength : rest.length using Nat.strongRecOn generalizing r plan rest with
  | ind n ih =>
      have hpos := r.pageSize_pos
      have hsearch : (e.search w r).value = .ok (e.page r plan found) :=
        e.search_eq_ok_iff.mpr ⟨plan, found, hplan, hfound, rfl⟩
      have hids : (e.page r plan found).ids.Perm ((rest.map (·.id)).take r.pageSize) := by
        rw [← List.map_take, ← hrest]
        exact e.page_ids_perm
      cases hnext : (e.page r plan found).next with
      | none =>
          have hle := e.length_le_of_page_next_none hnext
          rw [hrest, ← List.length_map (·.id)] at hle
          exact ⟨_, .last hsearch hnext, .single hpos hle rfl hids⟩
      | some c =>
          obtain ⟨h, hmem, rfl, hlonger, hafter⟩ := e.page_next_cases hnext
          rw [hrest] at hlonger hafter
          have hshorter : (rest.drop r.pageSize).length < n := by
            rw [List.length_drop]
            omega
          obtain ⟨pages, hwalk, hpages⟩ :=
            ih _ hshorter (Plan.ofRequest_resume hplan (hread h hmem)) hfound hread hafter rfl
          rw [← List.length_map (·.id)] at hlonger
          rw [List.map_drop] at hpages
          exact ⟨_, .more hsearch hnext hwalk, .cons hpos hlonger rfl hids hpages⟩

/-- A walk ends after as many requests as the ranking has slices, and shows every document of the
ranking once. -/
theorem partitions_ranking {first : SearchResponse} (hstart : r.searchAfter = none)
    (hfirst : (e.search w r).value = .ok first) :
    ∃ pool, e.ranking w r = .ok pool ∧ ((∀ h ∈ pool, h.total.isFinite ∧ h.id ≠ "") →
      ∃ pages, (∀ pages', Walk e w r pages' ↔ pages' = pages) ∧
        pages.length = max 1 ((pool.length + r.pageSize - 1) / r.pageSize) ∧
        (∀ (i : Nat) (p : SearchResponse), pages[i]? = some p →
          p.total = pool.length ∧ p.ids.Perm (slice r.pageSize i (pool.map (·.id))) ∧
            (i + 1 < pages.length → p.hits.length = r.pageSize)) ∧
        (pages.flatMap (·.ids)).Perm (pool.map (·.id)) ∧ (pages.flatMap (·.ids)).Nodup) := by
  obtain ⟨plan, found, hplan, hfound, -⟩ := e.search_eq_ok_iff.mp hfirst
  refine ⟨plan.pool found, e.ranking_eq_ok hplan hfound, fun hread => ?_⟩
  have hwhole : pageAfter (plan.pool found) plan.cursor = plan.pool found := by
    have hcursor := (Plan.ofRequest_eq_ok_iff.mp hplan).2.2.2.1
    rw [SearchRequest.cursor, hstart] at hcursor
    rw [← Except.ok.inj hcursor]
    rfl
  obtain ⟨pages, hwalk, hpages⟩ := exists_of_plan hplan hfound hread hwhole
  have hcount := hpages.count
  rw [List.length_map] at hcount
  have honce := hpages.ids_perm r.pageSize_pos
  refine ⟨pages, fun pages' => ⟨fun hwalk' => hwalk'.unique hwalk, fun heq => heq ▸ hwalk⟩, hcount,
    fun i p hp => ?_, honce, honce.nodup_iff.mpr Engine.nodup_pool⟩
  obtain ⟨htotal, hids⟩ := hpages.shown i p hp
  exact ⟨htotal, hids, hpages.length_hits r.pageSize_pos hp⟩

def inPairs : SearchRequest := { SearchRequest.empty with limit := some 2 }

def threeHits : List Hit :=
  [⟨"a", .ofFloat 1, .null⟩, ⟨"b", .ofFloat 3, .null⟩, ⟨"c", .ofFloat 2, .null⟩]

def threeResult : StrategyResult := ⟨"browse", .ofFloat 1, 0, 3, false, threeHits, none⟩

def inPairsPlan : Plan := ⟨"resources_en", ⟨none, [], [], []⟩, none, none, .default⟩

theorem partitions_ranking_of_three : ∃ pages,
    (∀ pages', Walk (.ofHits threeHits) .default inPairs pages' ↔ pages' = pages) ∧
      pages.length = 2 ∧ (pages.flatMap (·.ids)).Perm ["b", "c", "a"] := by
  have hplan : Plan.ofRequest "resources" .default inPairs = .ok inPairsPlan := by rfl
  have hfound : (Engine.ofHits threeHits).retrieve inPairs inPairsPlan = .ok [threeResult] := by
    rfl
  have hids : (inPairsPlan.pool [threeResult]).map (·.id) = ["b", "c", "a"] := by
    rw [Plan.pool, combine_eq_insertionSort]
    decide +kernel
  have hread : ∀ h ∈ inPairsPlan.pool [threeResult], h.total.isFinite ∧ h.id ≠ "" := by
    rw [Plan.pool, combine_eq_insertionSort]
    decide +kernel
  have hfirst := (Engine.ofHits threeHits).search_eq_ok_iff.mpr ⟨_, _, hplan, hfound, rfl⟩
  obtain ⟨pool, hpool, hpages⟩ := partitions_ranking rfl hfirst
  rw [(Engine.ofHits threeHits).ranking_eq_ok hplan hfound, Except.ok.injEq] at hpool
  subst hpool
  obtain ⟨pages, hwalk, hcount, -, honce, -⟩ := hpages hread
  have hlength : (inPairsPlan.pool [threeResult]).length = 3 := by
    simpa using congrArg List.length hids
  rw [hlength] at hcount
  exact ⟨pages, hwalk, hcount, hids ▸ honce⟩

end Walk

end HybridSearch
