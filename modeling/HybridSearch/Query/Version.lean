import HybridSearch.Query.Context

/-!
The versions of query enrichment and how each is written.
-/

namespace HybridSearch.Query

inductive Version where
  /-- Codes are told from names, nothing else. -/
  | v1
  /-- Everything found is merged into one query. -/
  | v2
  /-- Everything found stays a query of its own. -/
  | v3
deriving DecidableEq, Repr

namespace Version

def name : Version → String
  | v1 => "1"
  | v2 => "2"
  | v3 => "3"

def stripMarks (s : String) : String :=
  .ofList ((Text.trimChars s.toList).dropWhile fun c => c = 'v' || c = 'V')

/-- Reads a version, or gives what is left of the text without blanks and leading marks. -/
def parse (s : String) : Except String Version :=
  let digits := stripMarks s
  if digits = "1" then .ok v1
  else if digits = "2" then .ok v2
  else if digits = "3" then .ok v3
  else .error digits

def unsupportedMessage (digits : String) : String := s!"Unsupported API version: {digits}"

def features : Version → List Feature
  | v1 => []
  | v2 => [.stemming, .synonymExpansion, .intentClassification, .genericNounFilter]
  | v3 => [.stemming, .synonymExpansion, .intentClassification, .genericNounFilter, .dualQuery]

end Version

end HybridSearch.Query
