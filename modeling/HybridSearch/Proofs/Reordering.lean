import HybridSearch.Proofs.Fusion

/-!
# Results with their hits in another order

A strategy that gives every document once has one hit for a document, wherever that hit stands. What
is found for a document then comes in the order of the strategies, and in no other, so that fusion
cannot tell how the hits of a strategy were ordered.
-/

namespace HybridSearch

/-- The same hits of the same strategy in any order. No more of a result than this is fused. -/
structure StrategyResult.Reorders (r' r : StrategyResult) : Prop where
  strategy : r'.strategy = r.strategy
  weight : r'.weight = r.weight
  hits : r'.hits.Perm r.hits

/-- What counts of a hit: its strategy and the weight of that, and the hit itself. -/
def counted (f : StrategyResult × Hit) : String × Score × Hit := (f.1.strategy, f.1.weight, f.2)

theorem fuse_congr {geo : Option GeoScorer} {id : String} {found found' : List (StrategyResult × Hit)}
    (hcounted : found'.map counted = found.map counted) : fuse geo id found' = fuse geo id found := by
  have hcontributions (fs : List (StrategyResult × Hit)) : retrieved fs
      = ((fs.map counted).map fun (strategy, weight, h) => ⟨strategy, h.score, weight⟩).eraseDupsBy
        fun a b => a.strategy == b.strategy := by
    rw [List.map_map]
    rfl
  have hretrieved : retrieved found' = retrieved found := by
    rw [hcontributions, hcontributions, hcounted]
  cases found with
  | nil =>
      obtain rfl : found' = [] := List.map_eq_nil_iff.mp hcounted
      rfl
  | cons f found =>
      obtain ⟨f', fs', rfl, hf, -⟩ := List.map_eq_cons_iff.mp hcounted
      have hhit : f'.2 = f.2 := congrArg (·.2.2) hf
      simp only [fuse, hretrieved, hhit]

/-- Hits of different documents leave no two for one of them, which could come in another order. -/
theorem pairwise_filter_id {hits : List Hit} (honce : (hits.map (·.id)).Nodup) (id : String) :
    (hits.filter (·.id = id)).Pairwise fun _ _ => False := by
  have hother := (List.pairwise_map.mp honce).sublist (List.filter_sublist (p := fun h => h.id = id))
  refine hother.imp_of_mem fun {a b} ha hb hab => hab ?_
  have hid : ∀ h ∈ hits.filter (·.id = id), h.id = id := by
    intro h hh
    simpa using (List.mem_filter.mp hh).2
  rw [hid a ha, hid b hb]

theorem filter_id_eq_of_perm {hits hits' : List Hit} (hperm : hits'.Perm hits)
    (honce : (hits.map (·.id)).Nodup) (id : String) :
    hits'.filter (·.id = id) = hits.filter (·.id = id) :=
  (hperm.filter _).eq_of_pairwise (fun _ _ _ _ hab _ => hab.elim)
    (pairwise_filter_id ((hperm.map _).nodup_iff.mpr honce) id) (pairwise_filter_id honce id)

theorem map_counted_hitsFor (results : List StrategyResult) (id : String) :
    (hitsFor results id).map counted = results.flatMap fun r =>
      (r.hits.filter (·.id = id)).map fun h => (r.strategy, r.weight, h) := by
  simp only [hitsFor, allHits, List.filter_flatMap, List.map_flatMap, List.filter_map, List.map_map]
  rfl

section

variable {results results' : List StrategyResult}
  (hreorders : List.Forall₂ StrategyResult.Reorders results' results)

include hreorders

theorem map_counted_hitsFor_eq (honce : ∀ r ∈ results, (r.hits.map (·.id)).Nodup) (id : String) :
    (hitsFor results' id).map counted = (hitsFor results id).map counted := by
  rw [map_counted_hitsFor, map_counted_hitsFor]
  induction hreorders with
  | nil => rfl
  | cons hr _ ih =>
      rw [List.forall_mem_cons] at honce
      rw [List.flatMap_cons, List.flatMap_cons, ih honce.2, hr.strategy, hr.weight,
        filter_id_eq_of_perm hr.hits honce.1 id]

theorem foundIds_perm : (foundIds results').Perm (foundIds results) := by
  have hids : ((allHits results').map (·.2.id)).Perm ((allHits results).map (·.2.id)) := by
    simp only [allHits, List.map_flatMap, List.map_map]
    induction hreorders with
    | nil => exact List.Perm.refl _
    | cons hr _ ih => exact (hr.hits.map _).append ih
  refine (List.perm_ext_iff_of_nodup (nodup_eraseDups _) (nodup_eraseDups _)).mpr fun id => ?_
  rw [List.mem_eraseDups, List.mem_eraseDups, hids.mem_iff]

theorem fusedHits_perm (honce : ∀ r ∈ results, (r.hits.map (·.id)).Nodup) (geo : Option GeoScorer) :
    (fusedHits results' geo).Perm (fusedHits results geo) := by
  have hfuse : ∀ id ∈ foundIds results',
      fuse geo id (hitsFor results' id) = fuse geo id (hitsFor results id) :=
    fun id _ => fuse_congr (map_counted_hitsFor_eq hreorders honce id)
  calc fusedHits results' geo
      = (foundIds results').map fun id => fuse geo id (hitsFor results id) := List.map_congr_left hfuse
    List.Perm _ (fusedHits results geo) := (foundIds_perm hreorders).map _

end

/-- If no strategy gives a document twice, the order in which each lists its hits does not matter. -/
theorem combine_reorders {results results' : List StrategyResult}
    (hreorders : List.Forall₂ StrategyResult.Reorders results' results)
    (honce : ∀ r ∈ results, (r.hits.map (·.id)).Nodup) (geo : Option GeoScorer) :
    combine results' geo = combine results geo := by
  apply eq_combine
  · exact (combine_perm results' geo).trans (fusedHits_perm hreorders honce geo)
  · exact pairwise_combine results' geo

def StrategyResult.reversed (r : StrategyResult) : StrategyResult := { r with hits := r.hits.reverse }

def tiedResults : List StrategyResult :=
  [⟨Strategy.semanticService.name, .ofFloat 1, 0, 2, false,
      [⟨"a", .ofFloat 2, .obj [("location", .str "40, -75")]⟩, ⟨"b", .ofFloat 2, .null⟩], none⟩,
    ⟨Strategy.keywordTyped.name, .ofFloat 2, 0, 2, false,
      [⟨"a", .ofFloat 1, .null⟩, ⟨"b", .ofFloat 1, .null⟩], none⟩]

theorem combine_reorders_of_tied : foundIds tiedResults = ["a", "b"] ∧
    foundIds (tiedResults.map .reversed) = ["b", "a"] ∧
    combine (tiedResults.map .reversed) (some ⟨⟨40, -75⟩, 2, 50, 0⟩)
      = combine tiedResults (some ⟨⟨40, -75⟩, 2, 50, 0⟩) := by
  have hreorders (r : StrategyResult) : r.reversed.Reorders r :=
    ⟨rfl, rfl, List.reverse_perm r.hits⟩
  refine ⟨by decide +kernel, by decide +kernel, ?_⟩
  apply combine_reorders
  · exact .cons (hreorders _) (.cons (hreorders _) .nil)
  · decide

end HybridSearch
