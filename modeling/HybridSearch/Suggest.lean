import HybridSearch.Batch
import HybridSearch.Index
import HybridSearch.Query.Stage
import HybridSearch.Request

/-!
Suggestions of taxonomy entries for a query or a code. The query is enriched first; then either everything found is
searched as one query, or each query on its own and the hits are fused.
-/

namespace HybridSearch

open Query

/-- What a query of each type counts when the hits are fused. -/
def Query.QueryType.weight : QueryType → Float
  | .user => 1.0
  | .intent => 0.8
  | .synonym => 0.6

structure Suggestion where
  id : String
  code : Option String
  name : Option String
  score : Score
  contributions : List Contribution

namespace Suggestion

def ofDocument (id : String) (score : Score) (contributions : List Contribution) (source : Json) : Suggestion :=
  let field := fun name => (source.get? name).bind Json.str?
  ⟨id, field "code", field "name", score, contributions⟩

def ofHit (h : Hit) : Suggestion := ofDocument h.id h.score [] h.source

def ofCombined (h : CombinedHit) : Suggestion := ofDocument h.id h.total h.contributions h.source

def json (s : Suggestion) : Json :=
  .present [("id", some (.str s.id)), ("code", s.code.map .str), ("name", s.name.map .str),
    ("score", some (.number s.score.toFloat)),
    ("sources",
      if s.contributions.isEmpty then none else some (.arr (s.contributions.map Contribution.json)))]

end Suggestion

structure SuggestResponse where
  page : Nat
  total : Nat
  suggestions : List Suggestion
  context : Context

def SuggestResponse.json (r : SuggestResponse) : Json :=
  .object [("page", .nat r.page), ("total", .nat r.total),
    ("suggestions", .arr (r.suggestions.map Suggestion.json)), ("context", r.context.json)]

structure SuggestPlan where
  input : String
  page : Nat
  index : String

namespace SuggestPlan

/-- The code, or without one the query, when it is not blank. -/
def inputOf (r : SuggestRequest) : Option String :=
  ((r.code <|> r.query).map Text.trim).filter (· ≠ "")

/-- The page asked for, where zero is the first. -/
def pageOf (r : SuggestRequest) : Except RequestError Nat :=
  let page := max 1 r.page
  if maxSuggestPage < page then .error (.page page) else .ok page

def ofRequest (indexBase : String) (r : SuggestRequest) : Except RequestError SuggestPlan := do
  let input ← (inputOf r).elim (throw .noInput) pure
  let page ← pageOf r
  let index ← Index.name indexBase r.lang
  return ⟨input, page, index⟩

def pageSize : Nat := 10

/-- How many suggestions stand on the pages before. -/
def skipped (p : SuggestPlan) : Nat := (p.page - 1) * pageSize

end SuggestPlan

structure Suggester where
  sources : Sources
  backend : Backend
  /-- What the names of the taxonomy indexes begin with. -/
  indexBase : String

namespace Suggester

/-- The enriched input. If only generic words are left, it is searched as typed. -/
def context (s : Suggester) (version : Version) (disableIntent : Bool) (input : String) : Context :=
  let c := enrich s.sources version input disableIntent
  if c.processed.isEmpty then c.append ⟨input, .user, "original"⟩ else c

/-- One clause with everything found, for the page alone. -/
def mergedClause (plan : SuggestPlan) (c : Context) : Clause :=
  ⟨"suggest", .ofFloat 1, searchBody (.text c.merged c.fields) [] ⟨some plan.skipped, SuggestPlan.pageSize⟩⟩

/-- A clause per query, each for all pages up to the one asked for. -/
def dualClauses (plan : SuggestPlan) (c : Context) : List Clause :=
  c.processed.map fun q =>
    ⟨q.strategy, .ofFloat q.type.weight,
      searchBody (.text q.text c.fields) [] ⟨none, plan.page * SuggestPlan.pageSize⟩⟩

def clauses (plan : SuggestPlan) (c : Context) : List Clause :=
  if c.has .dualQuery then dualClauses plan c else [mergedClause plan c]

def mergedResponse (plan : SuggestPlan) (c : Context) (results : List StrategyResult) :
    Except SearchError SuggestResponse :=
  match results.getLast? with
  | none => .error (.internal "empty suggest result")
  | some result => .ok ⟨plan.page, result.total, result.hits.map .ofHit, c⟩

def dualResponse (plan : SuggestPlan) (c : Context) (results : List StrategyResult) : SuggestResponse :=
  let pool := combine results none
  ⟨plan.page, pool.length, ((pool.drop plan.skipped).take SuggestPlan.pageSize).map .ofCombined, c⟩

def respond (plan : SuggestPlan) (c : Context) (results : List StrategyResult) :
    Except SearchError SuggestResponse :=
  if c.has .dualQuery then .ok (dualResponse plan c results) else mergedResponse plan c results

def run (s : Suggester) (plan : SuggestPlan) (c : Context) : Traced (Except SearchError SuggestResponse) := do
  match ← Batch.execute s.backend plan.index (clauses plan c) with
  | .error cause => return .error (.backend cause)
  | .ok results => return respond plan c results

def suggest (s : Suggester) (version : Version) (r : SuggestRequest) :
    Traced (Except SearchError SuggestResponse) :=
  match SuggestPlan.ofRequest s.indexBase r with
  | .error cause => pure (.error (.invalid cause))
  | .ok plan => s.run plan (s.context version r.disableIntent plan.input)

end Suggester

end HybridSearch
