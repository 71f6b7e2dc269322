import HybridSearch.Proofs.SuggestPages
import Mathlib.Data.Finset.Card

/-!
# How many suggestions there are said to be

The total that stands on a page counts the documents among the hits that the page has asked for, and
a deeper page asks for more of them. So two pages give the same total only if the deeper one finds
nothing new.
-/

namespace HybridSearch.Suggester

open Query

/-- The documents among the first hits for the queries of an input. -/
def found (c : Context) (ranked : String → List Hit) (size : Nat) : Finset String :=
  (c.processed.flatMap fun q => ((ranked q.text).take size).map (·.id)).toFinset

section

variable {c : Context} {ranked : String → List Hit}

theorem mem_found_iff {size : Nat} {id : String} : id ∈ found c ranked size ↔
    ∃ q ∈ c.processed, ∃ h ∈ (ranked q.text).take size, h.id = id := by
  simp only [found, List.mem_toFinset, List.mem_flatMap, List.mem_map]

theorem found_subset_found {size size' : Nat} (hle : size ≤ size') :
    found c ranked size ⊆ found c ranked size' := by
  intro id hid
  obtain ⟨q, hq, h, hh, rfl⟩ := mem_found_iff.mp hid
  exact mem_found_iff.mpr ⟨q, hq, h, List.take_subset_take_left _ hle hh, rfl⟩

theorem card_found_eq_iff {size size' : Nat} (hle : size ≤ size') :
    (found c ranked size).card = (found c ranked size').card ↔
      found c ranked size' ⊆ found c ranked size := by
  have hmore : found c ranked size ⊆ found c ranked size' := found_subset_found hle
  constructor
  · intro hcard
    rw [Finset.eq_of_subset_of_card_le hmore hcard.ge]
  · intro hless
    rw [Finset.Subset.antisymm hmore hless]

variable {s : Suggester} {plan : SuggestPlan}

theorem length_pool (hranks : s.Ranks plan.index c ranked) (page : Nat) :
    (s.pool plan c page).length = (found c ranked (page * SuggestPlan.pageSize)).card := by
  have hids : ((s.pool plan c page).map (·.id)).toFinset
      = found c ranked (page * SuggestPlan.pageSize) := by
    ext id
    rw [List.mem_toFinset, mem_pool_iff hranks, mem_found_iff]
  calc (s.pool plan c page).length = ((s.pool plan c page).map (·.id)).length := by
        rw [List.length_map]
    _ = ((s.pool plan c page).map (·.id)).toFinset.card :=
        (List.toFinset_card_of_nodup (nodup_pool page)).symm
    _ = (found c ranked (page * SuggestPlan.pageSize)).card := by rw [hids]

theorem total_atPage {r : SuggestRequest} (hplan : SuggestPlan.ofRequest s.indexBase r = .ok plan)
    (hranks : s.Ranks plan.index (s.context .v3 r.disableIntent plan.input) ranked) {page : Nat}
    (hfirst : 1 ≤ page) (hlast : page ≤ maxSuggestPage) :
    ∃ answer, (s.suggest .v3 (r.atPage page)).value = .ok answer ∧ answer.total
      = (found (s.context .v3 r.disableIntent plan.input) ranked
          (page * SuggestPlan.pageSize)).card := by
  obtain ⟨results, hpool, hvalue⟩ := suggest_value_atPage hplan hranks hfirst hlast
  refine ⟨_, hvalue, ?_⟩
  rw [← length_pool hranks, hpool]
  rfl

/-- Two pages of suggestions give the same total if the deeper finds no document that the other has
not found, and not otherwise. -/
theorem suggestion_totals_agree_iff {r : SuggestRequest}
    (hplan : SuggestPlan.ofRequest s.indexBase r = .ok plan)
    (hranks : s.Ranks plan.index (s.context .v3 r.disableIntent plan.input) ranked)
    {page page' : Nat} (hfirst : 1 ≤ page) (hle : page ≤ page') (hlast : page' ≤ maxSuggestPage) :
    let documents page := found (s.context .v3 r.disableIntent plan.input) ranked
      (page * SuggestPlan.pageSize)
    ∃ answer answer', (s.suggest .v3 (r.atPage page)).value = .ok answer ∧
      (s.suggest .v3 (r.atPage page')).value = .ok answer' ∧
      answer.total = (documents page).card ∧ answer'.total = (documents page').card ∧
      (answer.total = answer'.total ↔ documents page' ⊆ documents page) := by
  intro documents
  obtain ⟨answer, hvalue, htotal⟩ := total_atPage hplan hranks hfirst (hle.trans hlast)
  obtain ⟨answer', hvalue', htotal'⟩ := total_atPage hplan hranks (hfirst.trans hle) hlast
  refine ⟨answer, answer', hvalue, hvalue', htotal, htotal', ?_⟩
  rw [htotal, htotal']
  exact card_found_eq_iff (Nat.mul_le_mul_right _ hle)

end

theorem suggestion_totals_agree_inOrder : ∃ second third : SuggestResponse,
    (inOrder.suggest .v3 (codeRequest.atPage 2)).value = .ok second ∧
      (inOrder.suggest .v3 (codeRequest.atPage 3)).value = .ok third ∧
      second.total = third.total := by
  obtain ⟨second, third, hsecond, hthird, -, -, hiff⟩ :=
    suggestion_totals_agree_iff (s := inOrder) (r := codeRequest) (plan_ofHits _)
      (ranks_ofHits _) (show 1 ≤ 2 by decide) (show 2 ≤ 3 by decide) (by decide)
  exact ⟨second, third, hsecond, hthird, hiff.mpr (by decide +kernel)⟩

/-- Of eleven documents the first page counts ten. -/
theorem exists_suggestion_totals_apart : ∃ (s : Suggester) (r : SuggestRequest)
    (plan : SuggestPlan) (ranked : String → List Hit) (first second : SuggestResponse),
      SuggestPlan.ofRequest s.indexBase r = .ok plan ∧
      s.Ranks plan.index (s.context .v3 r.disableIntent plan.input) ranked ∧
      (s.suggest .v3 (r.atPage 1)).value = .ok first ∧
      (s.suggest .v3 (r.atPage 2)).value = .ok second ∧
      first.total = 10 ∧ second.total = 11 := by
  obtain ⟨first, hfirst, htotal⟩ :=
    total_atPage (s := inOrder) (r := codeRequest) (plan_ofHits _) (ranks_ofHits _)
      (Nat.le_refl 1) (by decide)
  obtain ⟨second, hsecond, htotal'⟩ :=
    total_atPage (s := inOrder) (r := codeRequest) (plan_ofHits _) (ranks_ofHits _)
      (show 1 ≤ 2 by decide) (by decide)
  refine ⟨inOrder, codeRequest, codePlan, _, first, second, plan_ofHits _, ranks_ofHits _, hfirst,
    hsecond, htotal.trans ?_, htotal'.trans ?_⟩
  · decide +kernel
  · decide +kernel

end HybridSearch.Suggester
