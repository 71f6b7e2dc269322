import HybridSearch.Digest.Sha1
import HybridSearch.Text.Hex
import HybridSearch.Decimal.Shortest
import HybridSearch.Time.Instant

/-!
The weights of the retrieval strategies: eleven numbers with their bounds, and the fingerprint that identifies them.
-/

namespace HybridSearch

structure SemanticWeights where
  service : Float
  taxonomy : Float
  organization : Float
deriving BEq

structure StrategyWeights where
  semanticSearch : Float
  keywordSearch : Float
  intentDriven : Float
deriving BEq

structure GeospatialWeights where
  weight : Float
  /-- Miles over which proximity fades. -/
  decayScale : Float
  /-- Miles within which it does not fade. -/
  decayOffset : Float
deriving BEq

structure VariationWeights where
  nouns : Float
  stemmedNouns : Float
deriving BEq

/-- Notes carried with a weight document, neither checked nor part of the fingerprint. -/
structure WeightMetadata where
  description : Option String
  updatedAt : Option Time.Instant
  updatedBy : Option String
deriving BEq

structure Weights where
  version : String
  semantic : SemanticWeights
  strategies : StrategyWeights
  geospatial : GeospatialWeights
  variations : VariationWeights
  metadata : WeightMetadata
deriving BEq

inductive WeightField where
  | service
  | taxonomy
  | organization
  | semanticSearch
  | keywordSearch
  | intentDriven
  | geoWeight
  | decayScale
  | decayOffset
  | nouns
  | stemmedNouns
deriving DecidableEq, Repr

namespace WeightField

def all : List WeightField := [
  service, taxonomy, organization, semanticSearch, keywordSearch, intentDriven, geoWeight, decayScale, decayOffset,
  nouns, stemmedNouns]

def path : WeightField → String
  | service => "semantic.service"
  | taxonomy => "semantic.taxonomy"
  | organization => "semantic.organization"
  | semanticSearch => "strategies.semantic_search"
  | keywordSearch => "strategies.keyword_search"
  | intentDriven => "strategies.intent_driven"
  | geoWeight => "geospatial.weight"
  | decayScale => "geospatial.decay_scale"
  | decayOffset => "geospatial.decay_offset"
  | nouns => "keyword_variations.nouns_multiplier"
  | stemmedNouns => "keyword_variations.stemmed_nouns_multiplier"

def least : WeightField → Float
  | decayScale => 1
  | _ => 0

def most : WeightField → Float
  | decayScale => 200
  | decayOffset => 50
  | _ => 10

def admits (f : WeightField) (x : Float) : Bool := x.isFinite && f.least ≤ x && x ≤ f.most

end WeightField

structure Violation where
  field : WeightField
  value : Float

def Violation.message (v : Violation) : String :=
  s!"{v.field.path} = {plainNumber v.value} is outside [{plainNumber v.field.least}, {plainNumber v.field.most}]"

def violationsMessage (violations : List Violation) : String :=
  "; ".intercalate (violations.map Violation.message)

namespace Weights

def default : Weights where
  version := "1.0"
  semantic := ⟨1, 1, 1⟩
  strategies := ⟨1, 1, 1⟩
  geospatial := ⟨2, 50, 0⟩
  variations := ⟨1, 1⟩
  metadata := ⟨none, none, none⟩

def value (w : Weights) : WeightField → Float
  | .service => w.semantic.service
  | .taxonomy => w.semantic.taxonomy
  | .organization => w.semantic.organization
  | .semanticSearch => w.strategies.semanticSearch
  | .keywordSearch => w.strategies.keywordSearch
  | .intentDriven => w.strategies.intentDriven
  | .geoWeight => w.geospatial.weight
  | .decayScale => w.geospatial.decayScale
  | .decayOffset => w.geospatial.decayOffset
  | .nouns => w.variations.nouns
  | .stemmedNouns => w.variations.stemmedNouns

/-- Every field out of its bounds, in the order of the fields. -/
def violations (w : Weights) : List Violation :=
  (WeightField.all.filter fun f => !f.admits (w.value f)).map fun f => ⟨f, w.value f⟩

def isValid (w : Weights) : Bool := w.violations.isEmpty

/-- The text that the fingerprint is taken of. -/
def canonicalText (w : Weights) : String :=
  ";".intercalate (WeightField.all.map fun f => s!"{f.path}={plainNumber (w.value f)}")

/-- Identifies the numbers of the weights, whatever their version and notes. -/
def fingerprint (w : Weights) : String :=
  .ofList ((Text.hexChars (Digest.nameIdentifier Digest.objectNamespace w.canonicalText)).take 12)

end Weights

end HybridSearch
