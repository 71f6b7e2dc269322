import HybridSearch.Clause

/-!
Fusion of the hits of all strategies into one ranked list: a document scores the weighted sum of what each strategy
gave it, and of its proximity.
-/

namespace HybridSearch

structure Hit where
  id : String
  score : Score
  source : Json

structure StrategyResult where
  strategy : String
  weight : Score
  took : Nat
  /-- Matches counted, which may exceed the hits given. -/
  total : Nat
  timedOut : Bool
  hits : List Hit
  error : Option String

structure Contribution where
  strategy : String
  score : Score
  weight : Score
deriving DecidableEq

namespace Contribution

def value (c : Contribution) : Score := c.score * c.weight

def json (c : Contribution) : Json :=
  .object [("strategy", .str c.strategy), ("pre_weight_score", .number c.score.toFloat),
    ("weight_applied", .number c.weight.toFloat)]

end Contribution

structure CombinedHit where
  id : String
  total : Score
  contributions : List Contribution
  source : Json

/-- Higher scores first, then by id. -/
def CombinedHit.notAfter (a b : CombinedHit) : Bool :=
  b.total.rank < a.total.rank || (a.total.rank = b.total.rank && a.id ≤ b.id)

def sortHits (hits : List CombinedHit) : List CombinedHit := hits.mergeSort CombinedHit.notAfter

/-- All hits in the order of the results, each with the result it belongs to. -/
def allHits (results : List StrategyResult) : List (StrategyResult × Hit) :=
  results.flatMap fun r => r.hits.map (r, ·)

/-- One contribution per strategy, from its first hit for the document. -/
def retrieved (found : List (StrategyResult × Hit)) : List Contribution :=
  (found.map fun (r, h) => ⟨r.strategy, h.score, r.weight⟩).eraseDupsBy
    fun a b => a.strategy == b.strategy

/-- What proximity adds to a document that has a location. -/
def proximity (geo : Option GeoScorer) (source : Json) : List Contribution :=
  match geo with
  | some g =>
    if 0 < g.weight then
      (g.decay? source).toList.map fun d => ⟨Strategy.geospatial.name, .ofFloat d, .ofFloat g.weight⟩
    else []
  | none => []

/-- Fuses the hits for one document, of which there is at least one. -/
def fuse (geo : Option GeoScorer) (id : String) (found : List (StrategyResult × Hit)) : CombinedHit :=
  let source := match found with
    | (_, h) :: _ => h.source
    | [] => .null
  let contributions := retrieved found ++ proximity geo source
  ⟨id, .sum (contributions.map Contribution.value), contributions, source⟩

def combine (results : List StrategyResult) (geo : Option GeoScorer) : List CombinedHit :=
  let hits := allHits results
  let ids := (hits.map (·.2.id)).eraseDups
  sortHits (ids.map fun id => fuse geo id (hits.filter (·.2.id = id)))

structure Trace where
  rank : Nat
  hit : CombinedHit

def Trace.json (t : Trace) : Json :=
  .object [("rank", .nat t.rank), ("doc_id", .str t.hit.id), ("total_score", .number t.hit.total.toFloat),
    ("sources", .arr (t.hit.contributions.map Contribution.json))]

def topTrace (n : Nat) (hits : List CombinedHit) : List Trace :=
  (hits.take n).zipIdx.map fun (h, i) => ⟨i + 1, h⟩

end HybridSearch
