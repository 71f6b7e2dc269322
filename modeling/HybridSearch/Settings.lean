import HybridSearch.Decimal.Literal
import HybridSearch.Json.Basic

/-!
Settings of the service, read from named variables over defaults. A number that cannot be read is passed over.
-/

namespace HybridSearch

structure HelperSettings where
  /-- Without an address the service is not asked. -/
  url : Option String
  timeoutSecs : Nat

structure BackendSettings where
  url : String
  username : Option String
  password : Option String

structure IndexSettings where
  resources : String
  taxonomies : String
  poolSize : Nat

structure Settings where
  bindAddress : String
  backend : BackendSettings
  index : IndexSettings
  embedder : HelperSettings
  classifier : HelperSettings
  reranker : HelperSettings
  /-- A weight document to follow. -/
  weightsPath : Option String
  weightsReloadSecs : Nat
  synonymsPath : Option String

namespace Settings

def maxPoolSize : Nat := 1000

def defaultTimeoutSecs : Nat := 5

def maxRerankSecs : Nat := 30

section

variable (lookup : String → Option String)

def text (name default : String) : String := (lookup name).getD default

def number (name : String) (default : Nat) (bound : Nat → Nat) : Nat :=
  (((lookup name).bind fun v => Decimal.unsigned64? v.toList).map bound).getD default

/-- An address under one name and a number of seconds under another; an empty address is none. -/
def helper (urlName timeoutName : String) (bound : Nat → Nat) : HelperSettings where
  url := (lookup urlName).filter (· ≠ "")
  timeoutSecs := number lookup timeoutName defaultTimeoutSecs bound

def ofLookup : Settings where
  bindAddress := text lookup "DIRECTORY_SEARCH_BIND_ADDR" "127.0.0.1:9000"
  backend := {
    url := text lookup "OPENSEARCH_URL" "http://localhost:9200"
    username := lookup "OPENSEARCH_USERNAME"
    password := lookup "OPENSEARCH_PASSWORD" }
  index := {
    resources := text lookup "SEARCH_INDEX_PREFIX" "resources"
    taxonomies := text lookup "TAXONOMY_INDEX_PREFIX" "taxonomies"
    poolSize := number lookup "SEARCH_CANDIDATE_POOL" 300 fun n => max 1 (min maxPoolSize n) }
  embedder := helper lookup "EMBEDDING_URL" "EMBEDDING_TIMEOUT_SECS" id
  classifier := helper lookup "INTENT_CLASSIFIER_URL" "INTENT_TIMEOUT_SECS" id
  reranker := helper lookup "RERANKER_URL" "RERANKER_TIMEOUT_SECS" (min maxRerankSecs)
  weightsPath := lookup "WEIGHTS_PATH"
  weightsReloadSecs := number lookup "WEIGHTS_RELOAD_SECS" 5 (max 1)
  synonymsPath := lookup "SYNONYMS_PATH"

end

end Settings

namespace HelperSettings

def patience (h : HelperSettings) : Nat := h.timeoutSecs * 1000

def json (h : HelperSettings) : Json :=
  .object [("url", .ofOption .str h.url), ("timeout_secs", .nat h.timeoutSecs)]

end HelperSettings

/-- All settings but the password. -/
def Settings.json (s : Settings) : Json :=
  .object [("bind_addr", .str s.bindAddress),
    ("opensearch", .object [("url", .str s.backend.url), ("username", .ofOption .str s.backend.username)]),
    ("index", .object [("resource_prefix", .str s.index.resources),
      ("taxonomy_prefix", .str s.index.taxonomies), ("candidate_pool", .nat s.index.poolSize)]),
    ("embedding", s.embedder.json), ("intent", s.classifier.json), ("reranker", s.reranker.json),
    ("weights_path", .ofOption .str s.weightsPath), ("weights_reload_secs", .nat s.weightsReloadSecs),
    ("synonyms_path", .ofOption .str s.synonymsPath)]

end HybridSearch
