import HybridSearch.Cursor
import HybridSearch.Search.Plan
import HybridSearch.Snippet

/-!
Responses to searches.
-/

namespace HybridSearch

structure ResponseHit where
  id : String
  score : Score
  source : Json
  contributions : List Contribution
  relevantText : Option String

namespace ResponseHit

/-- Shows a hit without its hidden members, and with the sentence that mentions one of the terms. -/
def ofHit (withoutArea : Bool) (terms : List String) (hit : CombinedHit) : ResponseHit :=
  let source := Snippet.strip withoutArea hit.source
  ⟨hit.id, hit.total, source, hit.contributions, Snippet.relevantText source terms⟩

def json (h : ResponseHit) : Json :=
  .present [("_id", some (.str h.id)), ("_score", some (.number h.score.toFloat)),
    ("_source", some h.source),
    ("_sources",
      if h.contributions.isEmpty then none else some (.arr (h.contributions.map Contribution.json))),
    ("relevant_text", h.relevantText.map .str)]

end ResponseHit

/-- How a count stands to the number of matches there are. -/
inductive CountRelation where
  | exact
  | atLeast
deriving DecidableEq

def CountRelation.name : CountRelation → String
  | exact => "eq"
  | atLeast => "gte"

/-- A count is exact when no strategy counted more matches than it gave. -/
def CountRelation.ofResults (results : List StrategyResult) : CountRelation :=
  if results.any fun r => r.hits.length < r.total then .atLeast else .exact

structure SearchResponse where
  timedOut : Bool
  total : Nat
  relation : CountRelation
  hits : List ResponseHit
  next : Option Cursor
  mode : SearchMode
  fingerprint : String
  classification : Option Classification
  timings : List (String × Nat)
  /-- Where the scores of the first hits came from. -/
  top : List Trace

namespace SearchResponse

def timingsOf (results : List StrategyResult) : List (String × Nat) :=
  sortMembers (results.map fun r => (r.strategy, r.took))

def metadata (r : SearchResponse) : Json :=
  .present [("search_mode", some (.str r.mode.name)), ("weights_fingerprint", some (.str r.fingerprint)),
    ("intent_classification", r.classification.map Classification.json),
    ("strategy_timings", some (.object (r.timings.map fun t => (t.1, .nat t.2)))),
    ("sources_of_top_hits", some (.arr (r.top.map Trace.json)))]

def json (r : SearchResponse) : Json :=
  .present [("timed_out", some (.bool r.timedOut)),
    ("hits", some (.object [
      ("total", .object [("value", .nat r.total), ("relation", .str r.relation.name)]),
      ("hits", .arr (r.hits.map ResponseHit.json))])),
    ("search_after", r.next.map Cursor.json), ("metadata", some r.metadata)]

end SearchResponse

end HybridSearch
