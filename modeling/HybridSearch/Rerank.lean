import HybridSearch.Attempt
import HybridSearch.Call
import HybridSearch.Score

/-!
Reranking. A reranker scores passages against a query, and only the order of the passages is taken from its answer.
-/

namespace HybridSearch

structure RankedPassage where
  id : String
  score : Score

/-- Scores passages against a query; the number is how many are wanted. -/
abbrev Reranker := String → List Passage → Nat → Attempt (List RankedPassage)

namespace Rerank

/-- Scored ids by their best score, those with equal scores as answered, then the others as they were. Ids that were
not asked about are passed over. -/
def order (ids : List String) (ranked : List RankedPassage) : List String :=
  let known := ranked.filter fun r => ids.contains r.id
  let byScore := known.mergeSort fun a b => b.score.rank ≤ a.score.rank
  (byScore.map (·.id) ++ ids).eraseDups

/-- The order of the passages by an answer, as it was if the answer is lost. -/
def orderBy (limit : Nat) (ids : List String) (answer : Attempt (List RankedPassage)) : List String :=
  match answer.within limit with
  | some ranked => order ids ranked
  | none => ids

/-- Asks the reranker for the order of some passages; without passages it is not asked. -/
def run (reranker : Reranker) (limit : Nat) (query : String) (passages : List Passage) :
    Traced (List String) :=
  let ids := passages.map (·.id)
  if passages.isEmpty then pure ids
  else
    ⟨orderBy limit ids (reranker query passages passages.length),
      [.rerank query passages passages.length]⟩

end Rerank

end HybridSearch
