import HybridSearch.Proofs.Batch
import HybridSearch.Proofs.Unasked

/-!
# Exact totals

The total of a search is called exact if no clause has counted more matches than it has given. A
clause that is refused counts none and gives none. So an exact total is complete only where no
clause is refused.
-/

namespace HybridSearch

theorem CountRelation.ofResults_eq_exact_iff {results : List StrategyResult} :
    ofResults results = .exact ↔ ∀ r ∈ results, r.total ≤ r.hits.length := by
  simp [ofResults]

/-- Whether each clause has its answer, and one of a kind. -/
def Batch.Answered (clauses : List Clause) (answers : List Answer) (kind : Answer → Prop) : Prop :=
  clauses.length ≤ answers.length ∧ ∀ answer ∈ answers.take clauses.length, kind answer

namespace Batch

variable (clauses : List Clause) (answers : List Answer)

theorem ofResults_zipWith_label_eq_exact_iff :
    CountRelation.ofResults (clauses.zipWith label answers) = .exact ↔
      ∀ answer ∈ answers.take clauses.length, answer.total ≤ answer.hits.length := by
  rw [CountRelation.ofResults_eq_exact_iff, ← map_answer_zipWith_label, List.forall_mem_map]
  rfl

theorem answered_completely_iff :
    Answered clauses answers (fun a => a.error = none ∧ a.total ≤ a.hits.length) ↔
      CountRelation.ofResults (clauses.zipWith label answers) = .exact ∧
        Answered clauses answers (·.error = none) := by
  rw [ofResults_zipWith_label_eq_exact_iff, Answered, Answered, forall₂_and]
  tauto

end Batch

namespace Engine

variable {e : Engine} {w : Weights} {r : SearchRequest}

/-- Every clause of a search has given all the matches that it counted if the total is called exact
and no clause was refused or left without an answer, and not otherwise. -/
theorem answered_completely_iff_exact {p : SearchResponse} (hsearch : (e.search w r).value = .ok p) :
    ∃ plan answers, Plan.ofRequest e.indexBase w r = .ok plan ∧
      (e.clauses r plan ≠ [] →
        Call.search plan.index ((e.clauses r plan).map (·.body)) ∈ (e.search w r).calls ∧
        e.backend plan.index ((e.clauses r plan).map (·.body)) = .ok answers) ∧
      (Batch.Answered (e.clauses r plan) answers
          (fun a => a.error = none ∧ a.total ≤ a.hits.length) ↔
        p.relation = .exact ∧ Batch.Answered (e.clauses r plan) answers (·.error = none)) := by
  obtain ⟨plan, found, hplan, hfound, rfl⟩ := e.search_eq_ok_iff.mp hsearch
  rw [retrieve_eq] at hfound
  obtain ⟨answers, hanswers, rfl⟩ := Batch.execute_eq_ok hfound
  refine ⟨plan, answers, hplan, fun hsome => ⟨?_, hanswers hsome⟩,
    Batch.answered_completely_iff _ answers⟩
  rw [e.search_calls_of_plan hplan, Batch.calls_execute, if_neg (by simpa using hsome)]
  simp

/-- All the hits that there are. -/
def threeFound : Answer := ⟨0, 3, false, Walk.threeHits, none⟩

def threeAnswers (first : Answer) : List Answer := [first, threeFound, threeFound]

/-- An engine whose backend has one answer to the first clause and another to those after it. -/
def answering (first : Answer) : Engine :=
  { Engine.ofHits [] with backend := fun _ _ => .ok (threeAnswers first) }

section

variable (first : Answer)

theorem plan_answering :
    Plan.ofRequest (answering first).indexBase .default shelterRequest = .ok queryPlan := by
  rfl

/-- The words of the query, its nouns and their stems. -/
theorem length_clauses_answering :
    ((answering first).clauses shelterRequest queryPlan).length = 3 := by
  have hclauses : (answering first).clauses shelterRequest queryPlan
      = (answering threeFound).clauses shelterRequest queryPlan := rfl
  rw [hclauses]
  decide +kernel

theorem take_threeAnswers : (threeAnswers first).take
    ((answering first).clauses shelterRequest queryPlan).length = threeAnswers first := by
  rw [length_clauses_answering]
  rfl

theorem exists_search_answering : ∃ p,
    ((answering first).search .default shelterRequest).value = .ok p ∧
      (p.relation = .exact ↔ first.total ≤ first.hits.length) := by
  have hserved : ∃ answer ∈ threeAnswers first, answer.error = none :=
    ⟨threeFound, by simp [threeAnswers], rfl⟩
  have hfound : (answering first).retrieve shelterRequest queryPlan =
      .ok (((answering first).clauses shelterRequest queryPlan).zipWith Batch.label
        (threeAnswers first)) := by
    rw [retrieve_eq]
    exact Batch.execute_of_answered rfl ((take_threeAnswers first).symm ▸ hserved)
  have hexact := Batch.ofResults_zipWith_label_eq_exact_iff
    ((answering first).clauses shelterRequest queryPlan) (threeAnswers first)
  rw [take_threeAnswers] at hexact
  refine ⟨_, (answering first).search_eq_ok_iff.mpr
    ⟨queryPlan, _, plan_answering first, hfound, rfl⟩, hexact.trans ?_⟩
  simp [threeAnswers, threeFound, Walk.threeHits]

end

theorem answered_completely_of_three : ∃ p,
    ((answering threeFound).search .default shelterRequest).value = .ok p ∧ p.relation = .exact ∧
      Batch.Answered ((answering threeFound).clauses shelterRequest queryPlan)
        (threeAnswers threeFound) (fun a => a.error = none ∧ a.total ≤ a.hits.length) := by
  have hlength := length_clauses_answering threeFound
  obtain ⟨p, hsearch, hexact⟩ := exists_search_answering threeFound
  obtain ⟨plan, answers, hplan, hasked, hiff⟩ := answered_completely_iff_exact hsearch
  obtain rfl := Except.ok.inj (hplan.symm.trans (plan_answering threeFound))
  have hsome : (answering threeFound).clauses shelterRequest queryPlan ≠ [] := by
    rw [← List.length_pos_iff, hlength]
    decide
  obtain rfl := Except.ok.inj (hasked hsome).2
  have hrelation : p.relation = .exact := hexact.mpr (Nat.le_refl 3)
  refine ⟨p, hsearch, hrelation, hiff.mpr ⟨hrelation, hlength.le, ?_⟩⟩
  rw [take_threeAnswers]
  simp [threeAnswers, threeFound]

/-- The total is called exact although a clause was refused. -/
theorem exists_exact_total_of_refused : ∃ (e : Engine) (w : Weights) (r : SearchRequest)
    (p : SearchResponse) (plan : Plan) (answers : List Answer),
      (e.search w r).value = .ok p ∧ Plan.ofRequest e.indexBase w r = .ok plan ∧
      e.backend plan.index ((e.clauses r plan).map (·.body)) = .ok answers ∧
      answers.length = (e.clauses r plan).length ∧ p.relation = .exact ∧
      ∃ answer ∈ answers, answer.error = some "shard failed" := by
  obtain ⟨p, hsearch, hexact⟩ := exists_search_answering (.refused "shard failed")
  exact ⟨answering (.refused "shard failed"), .default, shelterRequest, p, queryPlan,
    threeAnswers (.refused "shard failed"), hsearch, plan_answering _, rfl,
    (length_clauses_answering _).symm, hexact.mpr (Nat.le_refl 0), .refused "shard failed",
    List.mem_cons_self, rfl⟩

end Engine

end HybridSearch
