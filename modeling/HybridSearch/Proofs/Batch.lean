import HybridSearch.Batch
import HybridSearch.Proofs.Json
import Mathlib.Tactic.SplitIfs

/-!
# One call for all clauses

Without clauses nobody is called, and with some the backend is called once. Its answers go to the
clauses in their order, and those beyond the clauses do not count.
-/

namespace HybridSearch

theorem get?_size_searchBody (query : ScoringQuery) (filters : List FilterQuery) (size : Nat) :
    (searchBody query filters ⟨none, size⟩).get? "size" = some (.nat size) := by
  -- The size is put in first, and no member after it has its name.
  change (Json.object ([] ++ [("size", .nat size)] ++ [("track_total_hits", .bool true)]
    ++ [("query", _)])).get? "size" = _
  rw [Json.get?_object_concat, if_neg (by decide), Json.get?_object_concat, if_neg (by decide),
    Json.get?_object_last]

/-- The answer that a result was made of. -/
def StrategyResult.answer (r : StrategyResult) : Answer :=
  ⟨r.took, r.total, r.timedOut, r.hits, r.error⟩

namespace Batch

variable {backend : Backend} {index : String} {clauses : List Clause} {answers : List Answer}
  {results : List StrategyResult}

theorem calls_execute (backend : Backend) (index : String) (clauses : List Clause) :
    (execute backend index clauses).calls
      = if clauses.isEmpty then [] else [.search index (clauses.map (·.body))] := by
  rw [execute]
  split_ifs
  · rfl
  · rfl

theorem map_answer_zipWith_label (clauses : List Clause) (answers : List Answer) :
    (clauses.zipWith label answers).map (·.answer) = answers.take clauses.length := by
  induction clauses generalizing answers with
  | nil => rfl
  | cons clause clauses ih =>
      cases answers with
      | nil => rfl
      | cons answer answers => exact congrArg (answer :: ·) (ih answers)

theorem all_refused_iff :
    (clauses.zipWith label answers).all (·.error.isSome) ↔
      ∀ answer ∈ answers.take clauses.length, answer.error.isSome := by
  rw [← map_answer_zipWith_label, List.forall_mem_map, List.all_eq_true]
  rfl

theorem execute_eq_ok (hresults : (execute backend index clauses).value = .ok results) :
    ∃ answers, (clauses ≠ [] → backend index (clauses.map (·.body)) = .ok answers) ∧
      results = clauses.zipWith label answers := by
  cases clauses with
  | nil =>
      cases hresults
      exact ⟨[], fun hsome => absurd rfl hsome, rfl⟩
  | cons clause clauses =>
      rw [execute, if_neg (by simp)] at hresults
      cases hanswers : backend index ((clause :: clauses).map (·.body)) with
      | error reason =>
          simp only [hanswers, judge] at hresults
          cases hresults
      | ok answers =>
          simp only [hanswers, judge] at hresults
          split_ifs at hresults
          cases hresults
          exact ⟨answers, fun _ => rfl, rfl⟩

/-- A batch of which some query is not refused gives the clauses their answers. -/
theorem execute_of_answered (hanswers : backend index (clauses.map (·.body)) = .ok answers)
    (hserved : ∃ answer ∈ answers.take clauses.length, answer.error = none) :
    (execute backend index clauses).value = .ok (clauses.zipWith label answers) := by
  obtain ⟨answer, hanswer, herror⟩ := hserved
  have hsome : clauses ≠ [] := by
    rintro rfl
    cases hanswer
  have hrefused : ¬ (clauses.zipWith label answers).all (·.error.isSome) := by
    intro hall
    have hrefused := all_refused_iff.mp hall answer hanswer
    rw [herror] at hrefused
    cases hrefused
  rw [execute, if_neg (by simpa using hsome)]
  change judge clauses (backend index (clauses.map (·.body))) = _
  rw [hanswers]
  exact if_neg hrefused

/-- A batch of which no query is refused gives every clause its answer. -/
theorem execute_of_served (hanswers : backend index (clauses.map (·.body)) = .ok answers)
    (hlength : answers.length = clauses.length)
    (hserved : ∀ answer ∈ answers, answer.error = none) :
    (execute backend index clauses).value = .ok (clauses.zipWith label answers) := by
  by_cases hnone : clauses = []
  · subst hnone
    rfl
  · refine execute_of_answered hanswers ?_
    have hsome : answers ≠ [] := by
      rintro rfl
      exact hnone (List.eq_nil_of_length_eq_zero hlength.symm)
    obtain ⟨answer, hanswer⟩ := List.exists_mem_of_ne_nil answers hsome
    rw [← hlength, List.take_length]
    exact ⟨answer, hanswer, hserved answer hanswer⟩

end Batch

end HybridSearch
