import HybridSearch.Embedding
import HybridSearch.Search.Page
import HybridSearch.Search.Response

/-!
The main search: a request is checked, its query is embedded and classified, all strategies run in one batch, their
hits are fused and cut into a page, and the page is reordered and shown. Every service but the backend is optional,
and one that is lost is done without.
-/

namespace HybridSearch

structure Engine where
  sources : Query.Sources
  embedder : Option Embedder
  embedPatience : Nat
  reranker : Option Reranker
  rerankPatience : Nat
  backend : Backend
  /-- What the names of the searched indexes begin with. -/
  indexBase : String
  /-- How many hits each strategy is asked for. -/
  poolSize : Nat

structure Signals where
  embedding : Option (List Float)
  intent : Option Intent

namespace Signals

def codes (s : Signals) : Option (List String) :=
  (s.intent.filter Intent.supportsSearch).map (·.classification.taxonomyCodes)

end Signals

def Plan.clauses (plan : Plan) (poolSize : Nat) (query : Option SearchQuery) (signals : Signals) :
    List Clause :=
  let filters := plan.filters.queries
  match query with
  | none => [browseClause filters poolSize]
  | some q =>
    ClauseInputs.clauses ⟨q.keywords, q.isCode, signals.embedding, signals.codes, poolSize⟩
      plan.weights filters

def Plan.pool (plan : Plan) (results : List StrategyResult) : List CombinedHit :=
  combine results (plan.origin.map fun place => .ofWeights place plan.weights.geospatial)

namespace Engine

def query (e : Engine) (r : SearchRequest) : Option SearchQuery := r.text?.map (.ofText e.sources)

/-- Asks the services about a query, as far as the request has use for it. -/
def signals (e : Engine) (r : SearchRequest) (query : Option SearchQuery) : Traced Signals := do
  let embedding ← Embedding.ask e.embedPatience e.embedder
    ((query.filter (·.wantsEmbedding r)).map (·.text))
  let intent ← Intent.ask e.sources.patience e.sources.classifier
    ((query.filter (·.wantsIntent r)).map (·.text))
  return ⟨embedding, intent⟩

/-- How many hits have the sources of their scores listed. -/
def topCount : Nat := 5

def respond (e : Engine) (r : SearchRequest) (plan : Plan) (query : Option SearchQuery)
    (intent : Option Intent) (results : List StrategyResult) : Traced SearchResponse := do
  let fingerprint := plan.weights.fingerprint
  let pool := plan.pool results
  let page := Page.cut pool plan.cursor r.pageSize fingerprint
  let hits ← Page.rerank e.rerankPatience page.hits e.reranker (query.map (·.text))
  let terms := query.elim [] (·.keywords.terms)
  return {
    timedOut := results.any (·.timedOut)
    total := pool.length
    relation := .ofResults results
    hits := hits.map (.ofHit r.excludeServiceArea terms)
    next := page.next
    mode := r.mode
    fingerprint := fingerprint
    classification := intent.map (·.classification)
    timings := SearchResponse.timingsOf results
    top := topTrace topCount page.hits }

def run (e : Engine) (r : SearchRequest) (plan : Plan) : Traced (Except SearchError SearchResponse) := do
  let query := e.query r
  let signals ← e.signals r query
  match ← Batch.execute e.backend plan.index (plan.clauses e.poolSize query signals) with
  | .error cause => return .error (.backend cause)
  | .ok results => .ok <$> e.respond r plan query signals.intent results

/-- Searches under one snapshot of the weights. -/
def search (e : Engine) (snapshot : Weights) (r : SearchRequest) :
    Traced (Except SearchError SearchResponse) :=
  match Plan.ofRequest e.indexBase snapshot r with
  | .error cause => pure (.error (.invalid cause))
  | .ok plan => e.run r plan

end Engine

end HybridSearch
