import HybridSearch.Call
import HybridSearch.Fusion

/-!
Running all clauses of a request in one call of the search backend.
-/

namespace HybridSearch

structure Answer where
  took : Nat
  total : Nat
  timedOut : Bool
  hits : List Hit
  error : Option String

def Answer.refused (reason : String) : Answer := ⟨0, 0, false, [], some reason⟩

/-- Answers several queries on an index at once, or fails as a whole. -/
abbrev Backend := String → List Json → Except String (List Answer)

inductive BatchError where
  | unavailable (reason : String)
  | allRefused (reasons : List String)
deriving DecidableEq

def BatchError.message : BatchError → String
  | unavailable reason => reason
  | allRefused reasons => "every search strategy failed: " ++ "; ".intercalate reasons

namespace Batch

def label (clause : Clause) (answer : Answer) : StrategyResult :=
  ⟨clause.strategy, clause.weight, answer.took, answer.total, answer.timedOut, answer.hits, answer.error⟩

/-- Joins the answers to their clauses. A refused clause counts as empty, unless all are refused. -/
def judge (clauses : List Clause) : Except String (List Answer) → Except BatchError (List StrategyResult)
  | .error reason => .error (.unavailable reason)
  | .ok answers =>
    let results := clauses.zipWith label answers
    if results.all (·.error.isSome) then .error (.allRefused (results.filterMap (·.error)))
    else .ok results

/-- Sends all clauses in one call. Without clauses nothing is sent. -/
def execute (backend : Backend) (index : String) (clauses : List Clause) :
    Traced (Except BatchError (List StrategyResult)) :=
  if clauses.isEmpty then pure (.ok [])
  else
    let bodies := clauses.map (·.body)
    ⟨judge clauses (backend index bodies), [.search index bodies]⟩

end Batch

end HybridSearch
