import HybridSearch.Index
import HybridSearch.Query.Stage
import HybridSearch.Request

/-!
What a search request asks for, once it is found to be sound. Nothing outside is asked before that.
-/

namespace HybridSearch

namespace SearchRequest

/-- The place that hits are measured from, which takes both coordinates. -/
def origin (r : SearchRequest) : Except RequestError (Option GeoPoint) :=
  match r.lat, r.lon with
  | some lat, some lon =>
    match GeoPoint.make lat lon with
    | .ok place => .ok (some place)
    | .error cause => .error (.place cause)
  | none, none => .ok none
  | _, _ => .error .coordinatesApart

/-- The circle that hits have to lie in. -/
def circle (r : SearchRequest) (origin : Option GeoPoint) : Except RequestError (Option GeoFilter) :=
  match origin, r.distance with
  | some place, some miles =>
    if miles.isFinite && 0 < miles then .ok (some ⟨place, miles⟩) else .error (.distance miles)
  | none, some _ => .error .distanceWithoutPlace
  | _, none => .ok none

/-- Codes without blanks around them, each once. -/
def cleanCodes (codes : List String) : List String :=
  ((codes.map Text.trim).filter (· ≠ "")).eraseDups

def filters (r : SearchRequest) (circle : Option GeoFilter) : Filters where
  geo := circle
  allOf := cleanCodes (r.taxonomy.elim [] (·.allOf))
  anyOf := cleanCodes (r.taxonomy.elim [] (·.anyOf))
  facets := r.facets

def cursor (r : SearchRequest) : Except RequestError (Option Cursor) :=
  match r.searchAfter with
  | none => .ok none
  | some j =>
    match Cursor.decode j with
    | .ok c => .ok (some c)
    | .error cause => .error (.cursor cause)

def weights (r : SearchRequest) (snapshot : Weights) : Except RequestError Weights :=
  match snapshot.forRequest r.flatWeights r.customWeights with
  | .ok w => .ok w
  | .error violations => .error (.weights violations)

end SearchRequest

/-- Whether a cursor was issued under weights with another fingerprint. -/
def Cursor.isStale (c : Cursor) (fingerprint : String) : Bool :=
  c.fingerprint.any (· ≠ fingerprint)

structure Plan where
  index : String
  filters : Filters
  origin : Option GeoPoint
  cursor : Option Cursor
  weights : Weights

/-- Checks a request. The checks are made in this order, and the first that fails is reported. -/
def Plan.ofRequest (indexBase : String) (snapshot : Weights) (r : SearchRequest) :
    Except RequestError Plan := do
  let index ← Index.name indexBase r.lang
  let origin ← r.origin
  let circle ← r.circle origin
  let cursor ← r.cursor
  let weights ← r.weights snapshot
  if cursor.any (·.isStale weights.fingerprint) then throw .staleCursor
  return ⟨index, r.filters circle, origin, cursor, weights⟩

inductive SearchMode where
  | browse
  | keyword
  | hybrid
deriving DecidableEq

def SearchMode.name : SearchMode → String
  | browse => "browse"
  | keyword => "keyword"
  | hybrid => "hybrid"

def SearchRequest.mode (r : SearchRequest) : SearchMode :=
  if r.text?.isNone then .browse else if r.keywordOnly then .keyword else .hybrid

/-- A query as the main search understands it. -/
structure SearchQuery where
  text : String
  isCode : Bool
  keywords : KeywordVariants

namespace SearchQuery

open Query

def variants (c : Context) : KeywordVariants :=
  if c.isCode then ⟨c.query, none, none⟩
  else
    let nouns := Language.extractNouns c.query
    ⟨c.query, if nouns.isEmpty then none else some (" ".intercalate nouns), c.stemmed?⟩

def ofText (s : Sources) (text : String) : SearchQuery :=
  let c := analyze s text
  ⟨text, c.isCode, variants c⟩

/-- Whether a vector of the query is any use to a request. -/
def wantsEmbedding (r : SearchRequest) (q : SearchQuery) : Bool := !q.isCode && !r.keywordOnly

def wantsIntent (r : SearchRequest) (q : SearchQuery) : Bool :=
  !r.keywordOnly && intentApplicable q.isCode r.disableIntent q.text

end SearchQuery

end HybridSearch
