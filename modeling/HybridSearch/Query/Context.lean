import HybridSearch.Classification
import HybridSearch.Text.Basic

/-!
The state of a query while it is enriched: the query as typed, the queries to run for it with where each came from,
and the features switched on.
-/

namespace HybridSearch.Query

inductive QueryType where
  | user
  | intent
  | synonym
deriving DecidableEq, Repr

def QueryType.name : QueryType → String
  | user => "user"
  | intent => "intent"
  | synonym => "synonym"

structure ProcessedQuery where
  text : String
  type : QueryType
  source : String
deriving DecidableEq, Repr

namespace ProcessedQuery

/-- The label of the query when it runs as a strategy of its own. -/
def strategy (q : ProcessedQuery) : String := s!"{q.type.name}:{q.source}"

def json (q : ProcessedQuery) : Json :=
  .object [("query", .str q.text), ("type", .str q.type.name), ("source", .str q.source)]

end ProcessedQuery

inductive Feature where
  | stemming
  | synonymExpansion
  | intentClassification
  | genericNounFilter
  /-- Every query source stays a candidate of its own. -/
  | dualQuery
deriving DecidableEq, Repr

namespace Feature

def all : List Feature :=
  [stemming, synonymExpansion, intentClassification, genericNounFilter, dualQuery]

def name : Feature → String
  | stemming => "stemming"
  | synonymExpansion => "synonym_expansion"
  | intentClassification => "intent_classification"
  | genericNounFilter => "generic_noun_filter"
  | dualQuery => "dual_query"

end Feature

structure Context where
  query : String
  isCode : Bool
  fields : List String
  processed : List ProcessedQuery
  /-- Listed in the order of `Feature.all`, each once. -/
  features : List Feature
  classification : Option Classification

namespace Context

def ofQuery (query : String) (features : List Feature) : Context :=
  ⟨Text.trim query, false, [], [], features, none⟩

def has (c : Context) (f : Feature) : Bool := c.features.contains f

def append (c : Context) (q : ProcessedQuery) : Context :=
  { c with processed := c.processed ++ [q] }

/-- Changes the first user query, if there is one. -/
def modifyUserQuery (f : ProcessedQuery → ProcessedQuery) :
    List ProcessedQuery → List ProcessedQuery
  | [] => []
  | q :: rest => if q.type = .user then f q :: rest else q :: modifyUserQuery f rest

def stemmed? (c : Context) : Option String :=
  (c.processed.find? fun q => q.type = .user && q.source = "stemmed").map (·.text)

def json (c : Context) : Json :=
  .present [("original_query", some (.str c.query)), ("is_code_search", some (.bool c.isCode)),
    ("fields", some (.strings c.fields)),
    ("processed_queries", some (.arr (c.processed.map ProcessedQuery.json))),
    ("features", some (.strings (c.features.map Feature.name))),
    ("intent_classification", c.classification.map Classification.json)]

end Context

/-- Words of which no earlier one has the same lowercase form. -/
def firstSpellings (seen : List String) : List String → List String
  | [] => []
  | w :: rest =>
    let key := Text.lowercase w
    if seen.contains key then firstSpellings seen rest else w :: firstSpellings (key :: seen) rest

def merge (queries : List ProcessedQuery) : String :=
  " ".intercalate (firstSpellings [] (queries.flatMap fun q => Text.words q.text))

def Context.merged (c : Context) : String := merge c.processed

end HybridSearch.Query
