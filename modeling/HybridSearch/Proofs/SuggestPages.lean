import HybridSearch.Suggest
import HybridSearch.Proofs.Batch
import HybridSearch.Proofs.Enrichment
import HybridSearch.Proofs.Search
import HybridSearch.Proofs.Slice

/-!
# Pages of suggestions

Suggestions keep no cursor. Every page asks for all hits up to its own end, fuses them anew and
passes over what stands in the places before. So every page is cut from a pool of its own.
-/

namespace HybridSearch

namespace Suggester

open Query

variable (s : Suggester)

theorem context_has (version : Version) (disableIntent : Bool) (input : String) (f : Feature) :
    (s.context version disableIntent input).has f = (version.enabled disableIntent).contains f := by
  simp only [context]
  split_ifs
  · exact enrich_has f
  · exact enrich_has f

/-- Suggestions of the third version are made a query at a time, with intent asked for or not. -/
theorem context_has_dualQuery (disableIntent : Bool) (input : String) :
    (s.context .v3 disableIntent input).has .dualQuery := by
  rw [context_has, contains_enabled (by decide)]
  rfl

end Suggester

def SuggestRequest.atPage (r : SuggestRequest) (page : Nat) : SuggestRequest :=
  { r with page := page }

namespace SuggestPlan

variable {indexBase : String} {r : SuggestRequest} {plan : SuggestPlan}

theorem pageOf_eq_ok_iff {page : Nat} :
    pageOf r = .ok page ↔ page = max 1 r.page ∧ page ≤ maxSuggestPage := by
  rw [pageOf]
  by_cases hdeep : maxSuggestPage < max 1 r.page
  · simp only [hdeep, ↓reduceIte, reduceCtorEq, false_iff, not_and]
    rintro rfl
    omega
  · simp only [hdeep, ↓reduceIte, Except.ok.injEq]
    omega

/-- The checks of a request one by one. -/
theorem ofRequest_eq_ok_iff : ofRequest indexBase r = .ok plan ↔
    inputOf r = some plan.input ∧ (plan.page = max 1 r.page ∧ plan.page ≤ maxSuggestPage) ∧
      Index.name indexBase r.lang = .ok plan.index := by
  simp only [ofRequest, bind_eq_ok_iff, pageOf_eq_ok_iff]
  cases hinput : inputOf r with
  | none => simp [throw, throwThe, MonadExceptOf.throw]
  | some input =>
      constructor
      · rintro ⟨_, hsame, _, hpage, _, hindex, hplan⟩
        cases hsame
        cases hplan
        exact ⟨rfl, hpage, hindex⟩
      · obtain ⟨_, page, index⟩ := plan
        rintro ⟨hsame, hpage, hindex⟩
        cases hsame
        exact ⟨_, rfl, page, hpage, index, hindex, rfl⟩

theorem ofRequest_atPage (hplan : ofRequest indexBase r = .ok plan) {page : Nat}
    (hfirst : 1 ≤ page) (hlast : page ≤ maxSuggestPage) :
    ofRequest indexBase (r.atPage page) = .ok { plan with page := page } := by
  obtain ⟨hinput, -, hindex⟩ := ofRequest_eq_ok_iff.mp hplan
  exact ofRequest_eq_ok_iff.mpr ⟨hinput, ⟨(Nat.max_eq_right hfirst).symm, hlast⟩, hindex⟩

end SuggestPlan

def SuggestResponse.ids (p : SuggestResponse) : List String := p.suggestions.map (·.id)

/-- Whether the backend answers each query of an input with the first hits of a list that is fixed
for its text. -/
def Suggester.Ranks (s : Suggester) (index : String) (c : Query.Context)
    (ranked : String → List Hit) : Prop :=
  ∀ size, ∃ answers,
    s.backend index (c.processed.map fun q => searchBody (.text q.text c.fields) [] ⟨none, size⟩)
      = .ok answers ∧
      answers.map (·.hits) = c.processed.map (fun q => (ranked q.text).take size) ∧
      ∀ answer ∈ answers, answer.error = none

namespace Suggester

open Query

/-- The suggestions that a page is cut from. -/
def pool (s : Suggester) (plan : SuggestPlan) (c : Context) (page : Nat) : List CombinedHit :=
  match (Batch.execute s.backend plan.index (dualClauses { plan with page := page } c)).value with
  | .ok results => combine results none
  | .error _ => []

/-- Results that hold the first hits of the list of each query. -/
def HoldFirst (c : Context) (ranked : String → List Hit) (size : Nat)
    (results : List StrategyResult) : Prop :=
  results.map (fun r => (r.strategy, r.weight, r.hits))
    = c.processed.map fun q => (q.strategy, .ofFloat q.type.weight, (ranked q.text).take size)

variable {s : Suggester} {plan : SuggestPlan} {c : Context} {ranked : String → List Hit}

theorem execute_of_ranks (hranks : s.Ranks plan.index c ranked) (page : Nat) : ∃ results,
    (Batch.execute s.backend plan.index (dualClauses { plan with page := page } c)).value
        = .ok results ∧
      HoldFirst c ranked (page * SuggestPlan.pageSize) results := by
  obtain ⟨answers, hanswers, hhits, hserved⟩ := hranks (page * SuggestPlan.pageSize)
  have hbodies : (dualClauses { plan with page := page } c).map (·.body) = c.processed.map fun q =>
      searchBody (.text q.text c.fields) [] ⟨none, page * SuggestPlan.pageSize⟩ := by
    simp [dualClauses]
  have hlength : answers.length = (dualClauses { plan with page := page } c).length := by
    simpa [dualClauses] using congrArg List.length hhits
  refine ⟨_, Batch.execute_of_served (hbodies ▸ hanswers) hlength hserved, ?_⟩
  calc ((dualClauses { plan with page := page } c).zipWith Batch.label answers).map
        (fun r => (r.strategy, r.weight, r.hits))
      = (dualClauses { plan with page := page } c).zipWith
          (fun clause hits => (clause.strategy, clause.weight, hits))
          (answers.map (·.hits)) := by
        rw [List.map_zipWith, List.zipWith_map_right]
        rfl
    _ = c.processed.map fun q => (q.strategy, Score.ofFloat q.type.weight,
          (ranked q.text).take (page * SuggestPlan.pageSize)) := by
        rw [hhits, dualClauses, List.zipWith_map, List.zipWith_self]

theorem HoldFirst.exists_iff {size : Nat} {results : List StrategyResult}
    (hresults : HoldFirst c ranked size results) (found : String × Score × List Hit → Prop) :
    (∃ r ∈ results, found (r.strategy, r.weight, r.hits)) ↔
      ∃ q ∈ c.processed, found (q.strategy, .ofFloat q.type.weight, (ranked q.text).take size) := by
  have hmap : (∃ r ∈ results, found (r.strategy, r.weight, r.hits)) ↔
      ∃ x ∈ results.map (fun r => (r.strategy, r.weight, r.hits)), found x := by
    simp
  rw [HoldFirst] at hresults
  rw [hmap, hresults]
  simp

theorem mem_pool_iff (hranks : s.Ranks plan.index c ranked) {page : Nat} {id : String} :
    id ∈ (s.pool plan c page).map (·.id) ↔
      ∃ q ∈ c.processed, ∃ h ∈ (ranked q.text).take (page * SuggestPlan.pageSize), h.id = id := by
  obtain ⟨results, hexecute, hresults⟩ := execute_of_ranks hranks page
  rw [pool, hexecute]
  simp only [mem_ids_combine]
  exact hresults.exists_iff fun x => ∃ h ∈ x.2.2, h.id = id

theorem nodup_pool (page : Nat) : ((s.pool plan c page).map (·.id)).Nodup := by
  rw [pool]
  split
  · exact nodup_ids_combine _ _
  · exact List.nodup_nil

/-- Later pages are cut from no fewer suggestions. -/
theorem length_pool_le (hranks : s.Ranks plan.index c ranked) {page page' : Nat}
    (hle : page ≤ page') :
    ((s.pool plan c page).map (·.id)).length ≤ ((s.pool plan c page').map (·.id)).length := by
  refine (List.subperm_of_subset (nodup_pool page) fun id hid => ?_).length_le
  obtain ⟨q, hq, h, hh, rfl⟩ := (mem_pool_iff hranks).mp hid
  exact (mem_pool_iff hranks).mpr
    ⟨q, hq, h, (List.take_subset_take_left _ (Nat.mul_le_mul_right _ hle)) hh, rfl⟩

/-- Every page that is not too deep is answered from what it is cut from. -/
theorem suggest_value_atPage {r : SuggestRequest}
    (hplan : SuggestPlan.ofRequest s.indexBase r = .ok plan)
    (hranks : s.Ranks plan.index (s.context .v3 r.disableIntent plan.input) ranked) {page : Nat}
    (hfirst : 1 ≤ page) (hlast : page ≤ maxSuggestPage) : ∃ results,
    s.pool plan (s.context .v3 r.disableIntent plan.input) page = combine results none ∧
      (s.suggest .v3 (r.atPage page)).value = .ok (dualResponse { plan with page := page }
        (s.context .v3 r.disableIntent plan.input) results) := by
  obtain ⟨results, hresults, -⟩ := execute_of_ranks hranks page
  have hdual := s.context_has_dualQuery r.disableIntent plan.input
  refine ⟨results, by rw [pool, hresults], ?_⟩
  rw [suggest, SuggestPlan.ofRequest_atPage hplan hfirst hlast]
  change (s.run { plan with page := page } (s.context .v3 r.disableIntent plan.input)).value = _
  rw [run, Traced.value_bind, clauses, if_pos hdual, hresults]
  simp only [Traced.value_pure, respond, if_pos hdual]

/-- A page shows its ten places of the suggestions that it is cut from. -/
theorem suggest_atPage {r : SuggestRequest} (hplan : SuggestPlan.ofRequest s.indexBase r = .ok plan)
    (hranks : s.Ranks plan.index (s.context .v3 r.disableIntent plan.input) ranked) {page : Nat}
    (hfirst : 1 ≤ page) (hlast : page ≤ maxSuggestPage) :
    ∃ answer, (s.suggest .v3 (r.atPage page)).value = .ok answer ∧ answer.ids
      = slice SuggestPlan.pageSize (page - 1)
          ((s.pool plan (s.context .v3 r.disableIntent plan.input) page).map (·.id)) := by
  obtain ⟨results, hpool, hvalue⟩ := suggest_value_atPage hplan hranks hfirst hlast
  refine ⟨_, hvalue, ?_⟩
  rw [hpool, ← map_slice]
  simp [SuggestResponse.ids, dualResponse, Suggestion.ofCombined, Suggestion.ofDocument, slice,
    SuggestPlan.skipped, Function.comp_def]

def sizeAsked (body : Json) : Nat :=
  match body.get? "size" with
  | some (.int size) => size.toNat
  | _ => 0

theorem sizeAsked_searchBody (query : ScoringQuery) (size : Nat) :
    sizeAsked (searchBody query [] ⟨none, size⟩) = size := by
  rw [sizeAsked, get?_size_searchBody]
  rfl

/-- Suggestions from one list of documents, whatever is asked for. -/
def ofHits (hits : List Hit) : Suggester where
  sources := ⟨⟨[]⟩, fun _ => [], none, 0⟩
  backend := fun _ bodies =>
    .ok (bodies.map fun body => ⟨0, hits.length, false, hits.take (sizeAsked body), none⟩)
  indexBase := "taxonomies"

def codeRequest : SuggestRequest := ⟨none, some "BD", 1, "en", false⟩

def codePlan : SuggestPlan := ⟨"BD", 1, "taxonomies_en"⟩

def codeContext : Context :=
  ⟨"BD", true, codeFields, [⟨"BD", .user, "original"⟩], Version.v3.features, none⟩

theorem context_ofHits (hits : List Hit) :
    (ofHits hits).context .v3 false "BD" = codeContext := by rfl

theorem ranks_ofHits (hits : List Hit) :
    (ofHits hits).Ranks "taxonomies_en" ((ofHits hits).context .v3 false "BD") fun _ => hits := by
  intro size
  rw [context_ofHits]
  exact ⟨_, rfl, by simp [codeContext, sizeAsked_searchBody], by simp [codeContext]⟩

theorem pool_ofHits (hits : List Hit) (page : Nat) :
    (ofHits hits).pool codePlan ((ofHits hits).context .v3 false "BD") page = combine
      [⟨"user:original", .ofFloat 1.0, 0, hits.length, false,
        hits.take (page * SuggestPlan.pageSize), none⟩] none := by
  have hresults : (Batch.execute (ofHits hits).backend codePlan.index
      (dualClauses { codePlan with page := page } codeContext)).value = .ok
        [⟨"user:original", .ofFloat 1.0, 0, hits.length, false,
          hits.take (page * SuggestPlan.pageSize), none⟩] := by
    simp [Batch.execute, Batch.judge, Batch.label, dualClauses, codeContext, ofHits,
      sizeAsked_searchBody]
    exact ⟨rfl, rfl⟩
  rw [context_ofHits, pool, hresults]

theorem plan_ofHits (hits : List Hit) :
    SuggestPlan.ofRequest (ofHits hits).indexBase codeRequest = .ok codePlan := by
  rfl

def tied (ids : List String) : List Hit := ids.map fun id => ⟨id, .ofFloat 1.0, .null⟩

/-- Eleven documents, the last of which comes first by its id. -/
def lateFirst : Suggester :=
  ofHits (tied ["b0", "b1", "b2", "b3", "b4", "b5", "b6", "b7", "b8", "b9", "a"])

/-- The same documents in the order of their ids. -/
def inOrder : Suggester :=
  ofHits (tied ["a", "b0", "b1", "b2", "b3", "b4", "b5", "b6", "b7", "b8", "b9"])

end Suggester

end HybridSearch
