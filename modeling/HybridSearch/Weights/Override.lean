import HybridSearch.Weights.Document

/-!
Weights changed for one request. An override names some fields; later overrides win field by field, and the layered
result has to be in bounds as a whole.
-/

namespace HybridSearch

open Reading

structure SemanticOverride where
  service : Option Float
  taxonomy : Option Float
  organization : Option Float

structure StrategyOverride where
  semanticSearch : Option Float
  keywordSearch : Option Float
  intentDriven : Option Float

structure GeospatialOverride where
  weight : Option Float
  decayScale : Option Float
  decayOffset : Option Float

structure VariationOverride where
  nouns : Option Float
  stemmedNouns : Option Float

/-- The sections of a weight document that are present, each with the fields that are. -/
structure WeightOverride where
  semantic : Option SemanticOverride
  strategies : Option StrategyOverride
  geospatial : Option GeospatialOverride
  variations : Option VariationOverride

namespace SemanticOverride

def decode : Reading → Decoded SemanticOverride :=
  record ["service", "taxonomy", "organization"] fun r =>
    mk <$> r.nullable "service" double <*> r.nullable "taxonomy" double
      <*> r.nullable "organization" double

def apply (o : SemanticOverride) (w : SemanticWeights) : SemanticWeights :=
  ⟨o.service.getD w.service, o.taxonomy.getD w.taxonomy, o.organization.getD w.organization⟩

def merge (a b : SemanticOverride) : SemanticOverride :=
  ⟨b.service <|> a.service, b.taxonomy <|> a.taxonomy, b.organization <|> a.organization⟩

def json (o : SemanticOverride) : Json :=
  .object [("service", .ofOption .number o.service), ("taxonomy", .ofOption .number o.taxonomy),
    ("organization", .ofOption .number o.organization)]

end SemanticOverride

namespace StrategyOverride

def decode : Reading → Decoded StrategyOverride :=
  record ["semantic_search", "keyword_search", "intent_driven"] fun r =>
    mk <$> r.nullable "semantic_search" double <*> r.nullable "keyword_search" double
      <*> r.nullable "intent_driven" double

def apply (o : StrategyOverride) (w : StrategyWeights) : StrategyWeights :=
  ⟨o.semanticSearch.getD w.semanticSearch, o.keywordSearch.getD w.keywordSearch,
    o.intentDriven.getD w.intentDriven⟩

def merge (a b : StrategyOverride) : StrategyOverride :=
  ⟨b.semanticSearch <|> a.semanticSearch, b.keywordSearch <|> a.keywordSearch,
    b.intentDriven <|> a.intentDriven⟩

def json (o : StrategyOverride) : Json :=
  .object [("semantic_search", .ofOption .number o.semanticSearch),
    ("keyword_search", .ofOption .number o.keywordSearch),
    ("intent_driven", .ofOption .number o.intentDriven)]

end StrategyOverride

namespace GeospatialOverride

def decode : Reading → Decoded GeospatialOverride :=
  record ["weight", "decay_scale", "decay_offset"] fun r =>
    mk <$> r.nullable "weight" double <*> r.nullable "decay_scale" double
      <*> r.nullable "decay_offset" double

def apply (o : GeospatialOverride) (w : GeospatialWeights) : GeospatialWeights :=
  ⟨o.weight.getD w.weight, o.decayScale.getD w.decayScale, o.decayOffset.getD w.decayOffset⟩

def merge (a b : GeospatialOverride) : GeospatialOverride :=
  ⟨b.weight <|> a.weight, b.decayScale <|> a.decayScale, b.decayOffset <|> a.decayOffset⟩

def json (o : GeospatialOverride) : Json :=
  .object [("weight", .ofOption .number o.weight), ("decay_scale", .ofOption .number o.decayScale),
    ("decay_offset", .ofOption .number o.decayOffset)]

end GeospatialOverride

namespace VariationOverride

def decode : Reading → Decoded VariationOverride :=
  record ["nouns_multiplier", "stemmed_nouns_multiplier"] fun r =>
    mk <$> r.nullable "nouns_multiplier" double <*> r.nullable "stemmed_nouns_multiplier" double

def apply (o : VariationOverride) (w : VariationWeights) : VariationWeights :=
  ⟨o.nouns.getD w.nouns, o.stemmedNouns.getD w.stemmedNouns⟩

def merge (a b : VariationOverride) : VariationOverride :=
  ⟨b.nouns <|> a.nouns, b.stemmedNouns <|> a.stemmedNouns⟩

def json (o : VariationOverride) : Json :=
  .object [("nouns_multiplier", .ofOption .number o.nouns),
    ("stemmed_nouns_multiplier", .ofOption .number o.stemmedNouns)]

end VariationOverride

def mergeSections {α : Type} (merge : α → α → α) : Option α → Option α → Option α
  | some a, some b => some (merge a b)
  | some a, none => some a
  | none, b => b

namespace WeightOverride

def none : WeightOverride := ⟨.none, .none, .none, .none⟩

def decode : Reading → Decoded WeightOverride :=
  record ["semantic", "strategies", "geospatial", "keyword_variations"] fun r =>
    mk <$> r.orElse "semantic" (optional SemanticOverride.decode) .none
      <*> r.orElse "strategies" (optional StrategyOverride.decode) .none
      <*> r.orElse "geospatial" (optional GeospatialOverride.decode) .none
      <*> r.orElse "keyword_variations" (optional VariationOverride.decode) .none

/-- Whether no section is present; a present section counts even if it names no field. -/
def isEmpty (o : WeightOverride) : Bool :=
  o.semantic.isNone && o.strategies.isNone && o.geospatial.isNone && o.variations.isNone

/-- Lays the named fields over the weights. -/
def apply (o : WeightOverride) (w : Weights) : Weights :=
  { w with
    semantic := o.semantic.elim w.semantic (·.apply w.semantic)
    strategies := o.strategies.elim w.strategies (·.apply w.strategies)
    geospatial := o.geospatial.elim w.geospatial (·.apply w.geospatial)
    variations := o.variations.elim w.variations (·.apply w.variations) }

/-- Both overrides in one, the fields of the second winning. -/
def merge (a b : WeightOverride) : WeightOverride :=
  ⟨mergeSections .merge a.semantic b.semantic, mergeSections .merge a.strategies b.strategies,
    mergeSections .merge a.geospatial b.geospatial, mergeSections .merge a.variations b.variations⟩

def value? (o : WeightOverride) : WeightField → Option Float
  | .service => o.semantic.bind (·.service)
  | .taxonomy => o.semantic.bind (·.taxonomy)
  | .organization => o.semantic.bind (·.organization)
  | .semanticSearch => o.strategies.bind (·.semanticSearch)
  | .keywordSearch => o.strategies.bind (·.keywordSearch)
  | .intentDriven => o.strategies.bind (·.intentDriven)
  | .geoWeight => o.geospatial.bind (·.weight)
  | .decayScale => o.geospatial.bind (·.decayScale)
  | .decayOffset => o.geospatial.bind (·.decayOffset)
  | .nouns => o.variations.bind (·.nouns)
  | .stemmedNouns => o.variations.bind (·.stemmedNouns)

def json (o : WeightOverride) : Json :=
  .object [("semantic", .ofOption SemanticOverride.json o.semantic),
    ("strategies", .ofOption StrategyOverride.json o.strategies),
    ("geospatial", .ofOption GeospatialOverride.json o.geospatial),
    ("keyword_variations", .ofOption VariationOverride.json o.variations)]

end WeightOverride

/-- The flat weight fields that a request may still carry. -/
structure FlatWeights where
  semanticWeight : Option Float
  keywordWeight : Option Float
  intentWeight : Option Float
  geoWeight : Option Float
  decayScale : Option Float
  decayOffset : Option Float

namespace FlatWeights

def none : FlatWeights := ⟨.none, .none, .none, .none, .none, .none⟩

def names : List String :=
  ["semantic_weight", "keyword_weight", "intent_weight", "geo_weight", "decay_scale", "decay_offset"]

def ofRecord (r : Record) : Decoded FlatWeights :=
  mk <$> r.nullable "semantic_weight" double <*> r.nullable "keyword_weight" double
    <*> r.nullable "intent_weight" double <*> r.nullable "geo_weight" double
    <*> r.nullable "decay_scale" double <*> r.nullable "decay_offset" double

def decode : Reading → Decoded FlatWeights := record names ofRecord

/-- The override that the flat fields stand for. -/
def toOverride (l : FlatWeights) : WeightOverride where
  semantic := .none
  strategies :=
    if l.semanticWeight.isSome || l.keywordWeight.isSome || l.intentWeight.isSome then
      some ⟨l.semanticWeight, l.keywordWeight, l.intentWeight⟩
    else .none
  geospatial :=
    if l.geoWeight.isSome || l.decayScale.isSome || l.decayOffset.isSome then
      some ⟨l.geoWeight, l.decayScale, l.decayOffset⟩
    else .none
  variations := .none

def json (l : FlatWeights) : Json :=
  .object [("semantic_weight", .ofOption .number l.semanticWeight),
    ("keyword_weight", .ofOption .number l.keywordWeight),
    ("intent_weight", .ofOption .number l.intentWeight), ("geo_weight", .ofOption .number l.geoWeight),
    ("decay_scale", .ofOption .number l.decayScale), ("decay_offset", .ofOption .number l.decayOffset)]

end FlatWeights

/-- The flat fields of a request and over them its custom weights. -/
def requestOverride (flat : FlatWeights) (custom : Option WeightOverride) : WeightOverride :=
  custom.elim flat.toOverride flat.toOverride.merge

/-- The weights of one request. Without an override they are the snapshot as it is. -/
def Weights.forRequest (snapshot : Weights) (flat : FlatWeights) (custom : Option WeightOverride) :
    Except (List Violation) Weights :=
  let changes := requestOverride flat custom
  if changes.isEmpty then .ok snapshot
  else
    let layered := changes.apply snapshot
    if layered.isValid then .ok layered else .error layered.violations

end HybridSearch
