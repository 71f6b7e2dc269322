import HybridSearch.Attempt
import HybridSearch.Call
import HybridSearch.Json.Decode

/-!
What an intent classifier says about a query, and what stands in for it when the classifier is lost.
-/

namespace HybridSearch

structure TopIntent where
  intent : String
  confidence : Float
deriving BEq

structure Classification where
  primaryIntent : String
  confidence : Float
  taxonomyCodes : List String
  lowInformation : Bool
  topIntents : List TopIntent
deriving BEq

namespace TopIntent

def decode : Reading → Decoded TopIntent :=
  Reading.record ["intent", "confidence"] fun r =>
    mk <$> r.required "intent" Reading.string <*> r.orElse "confidence" Reading.double 0

def json (t : TopIntent) : Json :=
  .object [("intent", .str t.intent), ("confidence", .number t.confidence)]

end TopIntent

namespace Classification

/-- No intent, no confidence, and not flagged as low on information. -/
def fallback : Classification := ⟨"", 0, [], false, []⟩

def decode : Reading → Decoded Classification :=
  Reading.record
    ["primary_intent", "confidence", "combined_taxonomy_codes", "is_low_information_query", "top_intents"]
    fun r =>
      mk <$> r.orElse "primary_intent" Reading.string ""
        <*> r.orElse "confidence" Reading.double 0
        <*> r.orElse "combined_taxonomy_codes" (Reading.list Reading.string) []
        <*> r.orElse "is_low_information_query" Reading.flag false
        <*> r.orElse "top_intents" (Reading.list TopIntent.decode) []

def json (c : Classification) : Json :=
  .object [("primary_intent", .str c.primaryIntent), ("confidence", .number c.confidence),
    ("combined_taxonomy_codes", .strings c.taxonomyCodes),
    ("is_low_information_query", .bool c.lowInformation),
    ("top_intents", .arr (c.topIntents.map TopIntent.json))]

end Classification

abbrev Classifier := String → Attempt Classification

/-- A classification, and whether the classifier gave it or the fallback. -/
structure Intent where
  classification : Classification
  succeeded : Bool

namespace Intent

def ofAttempt (limit : Nat) (attempt : Attempt Classification) : Intent :=
  match attempt.within limit with
  | some c => ⟨c, true⟩
  | none => ⟨.fallback, false⟩

def ask (limit : Nat) : Option Classifier → Option String → Traced (Option Intent)
  | some classifier, some query => ⟨some (ofAttempt limit (classifier query)), [.classify query]⟩
  | _, _ => pure none

/-- Retrieval by taxonomy codes needs a real, informative classification that names some. -/
def supportsSearch (i : Intent) : Bool :=
  i.succeeded && !i.classification.lowInformation && !i.classification.taxonomyCodes.isEmpty

end Intent

end HybridSearch
