import HybridSearch.Weights.Override

/-!
Requests as they arrive.
-/

namespace HybridSearch

open Reading

structure TaxonomyQuery where
  allOf : List String
  anyOf : List String

def TaxonomyQuery.decode : Reading → Decoded TaxonomyQuery :=
  record ["AND", "OR"] fun r =>
    mk <$> r.orElse "AND" (list string) [] <*> r.orElse "OR" (list string) []

structure SearchRequest where
  query : Option String
  lang : String
  limit : Option Nat
  /-- A cursor, not yet read. -/
  searchAfter : Option Json
  lat : Option Float
  lon : Option Float
  distance : Option Float
  taxonomy : Option TaxonomyQuery
  facets : List (String × List String)
  keywordOnly : Bool
  disableIntent : Bool
  excludeServiceArea : Bool
  customWeights : Option WeightOverride
  flatWeights : FlatWeights

namespace SearchRequest

def defaultLanguage : String := "en"

def defaultLimit : Nat := 10

def maxLimit : Nat := 100

/-- A request that asks for nothing in particular. -/
def empty : SearchRequest :=
  ⟨none, defaultLanguage, none, none, none, none, none, none, [], false, false, false, none, .none⟩

def names : List String := [
  "q", "lang", "limit", "search_after", "lat", "lon", "distance", "query", "facets", "keyword_search_only",
  "disable_intent_classification", "exclude_service_area", "custom_weights"]

/-- The flat weight fields are read after everything else, so their faults come last. -/
def late {α : Type} : Decoded α → Decoded α
  | .error .unfit => .fail .incomplete
  | result => result

/-- The flat weight fields are a record among the members that are not declared, each of which has to be a value. -/
def flatWeightsIn (others : List (String × Reading)) : Decoded FlatWeights :=
  (fun _ flat => flat) <$> membersJson others <*> late (FlatWeights.decode (.obj others))

def decode : Reading → Decoded SearchRequest :=
  object names fun r =>
    mk <$> r.nullable "q" string
      <*> r.orElse "lang" string defaultLanguage
      <*> r.nullable "limit" unsigned
      <*> r.nullable "search_after" json
      <*> r.nullable "lat" double
      <*> r.nullable "lon" double
      <*> r.nullable "distance" double
      <*> r.nullable "query" TaxonomyQuery.decode
      <*> r.orElse "facets" (entries (list string)) []
      <*> r.orElse "keyword_search_only" flag false
      <*> r.orElse "disable_intent_classification" flag false
      <*> r.orElse "exclude_service_area" flag false
      <*> r.nullable "custom_weights" WeightOverride.decode
      <*> flatWeightsIn r.others

/-- The page size, between one and the largest. -/
def pageSize (r : SearchRequest) : Nat := max 1 (min maxLimit (r.limit.getD defaultLimit))

/-- The query without blanks around it; without one the request browses. -/
def text? (r : SearchRequest) : Option String :=
  (r.query.map Text.trim).filter (· ≠ "")

end SearchRequest

structure SuggestRequest where
  query : Option String
  code : Option String
  page : Nat
  lang : String
  disableIntent : Bool

def SuggestRequest.decode : Reading → Decoded SuggestRequest :=
  record ["query", "code", "page", "lang", "disable_intent_classification"] fun r =>
    mk <$> r.orElse "query" (optional string) none
      <*> r.orElse "code" (optional string) none
      <*> r.orElse "page" unsigned 1
      <*> r.orElse "lang" string SearchRequest.defaultLanguage
      <*> r.orElse "disable_intent_classification" flag false

end HybridSearch
