import HybridSearch.Json.Decode
import HybridSearch.Weights.Basic

/-!
Weight documents in JSON.
-/

namespace HybridSearch

open Reading

def SemanticWeights.decode : Reading → Decoded SemanticWeights :=
  record ["service", "taxonomy", "organization"] fun r =>
    mk <$> r.required "service" double <*> r.required "taxonomy" double
      <*> r.required "organization" double

def StrategyWeights.decode : Reading → Decoded StrategyWeights :=
  record ["semantic_search", "keyword_search", "intent_driven"] fun r =>
    mk <$> r.required "semantic_search" double <*> r.required "keyword_search" double
      <*> r.required "intent_driven" double

def GeospatialWeights.decode : Reading → Decoded GeospatialWeights :=
  record ["weight", "decay_scale", "decay_offset"] fun r =>
    mk <$> r.required "weight" double <*> r.required "decay_scale" double
      <*> r.required "decay_offset" double

def VariationWeights.decode : Reading → Decoded VariationWeights :=
  record ["nouns_multiplier", "stemmed_nouns_multiplier"] fun r =>
    mk <$> r.required "nouns_multiplier" double <*> r.required "stemmed_nouns_multiplier" double

def Time.Instant.decode (r : Reading) : Decoded Time.Instant :=
  match r with
  | .str s =>
    match Time.Instant.parse? s with
    | some t => .ok t
    | none => .fail .unfit
  | r => r.mismatch

def WeightMetadata.decode : Reading → Decoded WeightMetadata :=
  record ["description", "updated_at", "updated_by"] fun r =>
    mk <$> r.orElse "description" (optional string) none
      <*> r.orElse "updated_at" (optional Time.Instant.decode) none
      <*> r.orElse "updated_by" (optional string) none

namespace Weights

def decode : Reading → Decoded Weights :=
  record ["version", "semantic", "strategies", "geospatial", "keyword_variations", "metadata"] fun r =>
    mk <$> r.orElse "version" string "1.0"
      <*> r.required "semantic" SemanticWeights.decode
      <*> r.required "strategies" StrategyWeights.decode
      <*> r.required "geospatial" GeospatialWeights.decode
      <*> r.required "keyword_variations" VariationWeights.decode
      <*> r.orElse "metadata" WeightMetadata.decode ⟨none, none, none⟩

def parse? (text : String) : Option Weights := (ofText decode text).toOption

def json (w : Weights) : Json :=
  .object [("version", .str w.version),
    ("semantic", .object [("service", .number w.semantic.service),
      ("taxonomy", .number w.semantic.taxonomy), ("organization", .number w.semantic.organization)]),
    ("strategies", .object [("semantic_search", .number w.strategies.semanticSearch),
      ("keyword_search", .number w.strategies.keywordSearch),
      ("intent_driven", .number w.strategies.intentDriven)]),
    ("geospatial", .object [("weight", .number w.geospatial.weight),
      ("decay_scale", .number w.geospatial.decayScale),
      ("decay_offset", .number w.geospatial.decayOffset)]),
    ("keyword_variations", .object [("nouns_multiplier", .number w.variations.nouns),
      ("stemmed_nouns_multiplier", .number w.variations.stemmedNouns)]),
    ("metadata", .present [("description", w.metadata.description.map .str),
      ("updated_at", w.metadata.updatedAt.map fun t => .str t.text),
      ("updated_by", w.metadata.updatedBy.map .str)])]

end Weights

end HybridSearch
