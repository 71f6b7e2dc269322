import HybridSearch.Filter
import HybridSearch.Score

/-!
The retrieval clauses of a request: one query per enabled strategy, all with the same filters and window.
-/

namespace HybridSearch

inductive Strategy where
  | semanticService
  | semanticTaxonomy
  | semanticOrganization
  | keywordTyped
  | keywordNouns
  | keywordStemmedNouns
  | intentDriven
  | browse
  | geospatial
deriving DecidableEq, Repr

def Strategy.name : Strategy → String
  | semanticService => "semantic_service"
  | semanticTaxonomy => "semantic_taxonomy"
  | semanticOrganization => "semantic_organization"
  | keywordTyped => "keyword_original"
  | keywordNouns => "keyword_nouns"
  | keywordStemmedNouns => "keyword_stemmed_nouns"
  | intentDriven => "intent_driven"
  | browse => "browse"
  | geospatial => "geospatial"

/-- What a clause scores documents by. -/
inductive ScoringQuery where
  | everything
  | nearest (field : String) (vector : List Float) (count : Nat)
  | text (query : String) (fields : List String)
  | codes (wanted : List String)

def ScoringQuery.json : ScoringQuery → Json
  | everything => .object [("match_all", .object [])]
  | nearest field vector count =>
    .object [("knn", .object [(field, .object [("vector", .arr (vector.map .number)), ("k", .nat count)])])]
  | text query fields =>
    .object [("multi_match", .object [("query", .str query), ("type", .str "bool_prefix"),
      ("fields", .strings fields)])]
  | codes wanted =>
    .object [("bool", .object [
      ("should", .arr (wanted.map fun c => (FilterQuery.term Filters.codeField c).json)),
      ("minimum_should_match", .nat 1)])]

structure Window where
  skip : Option Nat
  size : Nat
deriving DecidableEq

/-- The body of a clause: a scoring query under filters. -/
def searchBody (query : ScoringQuery) (filters : List FilterQuery) (window : Window) : Json :=
  .present [("from", window.skip.map .nat), ("size", some (.nat window.size)),
    ("track_total_hits", some (.bool true)),
    ("query", some (.object [("bool", .object [("must", .arr [query.json]),
      ("filter", .arr (filters.map FilterQuery.json))])]))]

structure Clause where
  strategy : String
  weight : Score
  body : Json

structure Retrieval where
  strategy : Strategy
  weight : Float
  query : ScoringQuery

def Retrieval.clause (filters : List FilterQuery) (size : Nat) (r : Retrieval) : Clause :=
  ⟨r.strategy.name, .ofFloat r.weight, searchBody r.query filters ⟨none, size⟩⟩

structure KeywordVariants where
  typed : String
  nouns : Option String
  stemmedNouns : Option String

/-- The distinct words of all forms in lowercase. -/
def KeywordVariants.terms (k : KeywordVariants) : List String :=
  (([some k.typed, k.nouns, k.stemmedNouns].filterMap id).flatMap
    fun form => (Text.words form).map Text.lowercase).eraseDups

def textFields : List String := [
  "name^3", "name._2gram^2", "name._3gram^2", "service.name^2", "organization.name^1.5", "taxonomies.name^1.5",
  "description"]

def taxonomyCodeFields : List String :=
  ["taxonomies.code^3", "taxonomies.code._2gram", "taxonomies.code._3gram"]

structure ClauseInputs where
  keywords : KeywordVariants
  isCode : Bool
  embedding : Option (List Float)
  /-- Taxonomy codes from a real, informative classification. -/
  intentCodes : Option (List String)
  size : Nat

namespace ClauseInputs

def semantic (i : ClauseInputs) (w : Weights) : List Retrieval :=
  match i.embedding with
  | some vector =>
    if i.isCode then []
    else
      let plan := fun strategy field weight =>
        ⟨strategy, weight * w.strategies.semanticSearch, .nearest field vector i.size⟩
      [plan .semanticService "service.embedding" w.semantic.service,
        plan .semanticTaxonomy "taxonomies.embedding" w.semantic.taxonomy,
        plan .semanticOrganization "organization.embedding" w.semantic.organization]
  | none => []

/-- The clause of a lexical form of the query, unless the form is absent or blank. -/
def variant (strategy : Strategy) (form : Option String) (weight : Float) : List Retrieval :=
  match form with
  | some text => if Text.isBlank text then [] else [⟨strategy, weight, .text text textFields⟩]
  | none => []

def keyword (i : ClauseInputs) (w : Weights) : List Retrieval :=
  let fields := if i.isCode then taxonomyCodeFields else textFields
  let typed := ⟨.keywordTyped, w.strategies.keywordSearch, .text i.keywords.typed fields⟩
  if i.isCode then [typed]
  else
    typed :: (variant .keywordNouns i.keywords.nouns w.variations.nouns ++
      variant .keywordStemmedNouns i.keywords.stemmedNouns w.variations.stemmedNouns)

def intent (i : ClauseInputs) (w : Weights) : List Retrieval :=
  match i.intentCodes with
  | some codes =>
    if codes.isEmpty then [] else [⟨.intentDriven, w.strategies.intentDriven, .codes codes⟩]
  | none => []

/-- The queries whose inputs are there, whatever their weights. -/
def candidates (i : ClauseInputs) (w : Weights) : List Retrieval :=
  i.semantic w ++ i.keyword w ++ i.intent w

/-- The queries worth sending; one of weight zero would add nothing. -/
def retrievals (i : ClauseInputs) (w : Weights) : List Retrieval :=
  (i.candidates w).filter fun r => !(r.weight ≤ 0)

end ClauseInputs

/-- The one clause of a request without a query. -/
def browseClause (filters : List FilterQuery) (size : Nat) : Clause :=
  (Retrieval.mk .browse 1 .everything).clause filters size

def ClauseInputs.clauses (i : ClauseInputs) (w : Weights) (filters : List FilterQuery) : List Clause :=
  (i.retrievals w).map (·.clause filters i.size)

end HybridSearch
