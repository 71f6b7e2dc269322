import HybridSearch.Http.MediaType
import HybridSearch.Http.MultiSearch
import HybridSearch.Search
import HybridSearch.Service.Route
import HybridSearch.Suggest
import HybridSearch.Weights.Store

/-!
The service: what the settings describe, answering requests one at a time.
-/

namespace HybridSearch

structure Service where
  settings : Settings
  store : WeightStore
  engine : Engine
  suggester : Suggester

structure ServiceRequest where
  method : String
  target : String
  contentType : Option String
  body : String

/-- A response; one without a body has nothing but its status. -/
structure ServiceResponse where
  status : Nat
  body : Option Json

namespace ServiceResponse

def ok (body : Json) : ServiceResponse := ⟨200, some body⟩

/-- A request that never reaches the service behind the route. -/
def bare (status : Nat) : ServiceResponse := ⟨status, none⟩

def ofError (e : SearchError) : ServiceResponse := ⟨e.kind.status, some e.body⟩

def ofResult {α : Type} (json : α → Json) : Except SearchError α → ServiceResponse
  | .ok a => ok (json a)
  | .error e => ofError e

end ServiceResponse

namespace Service

open Query

/-- The weight store that the settings describe, over the files there are. -/
def storeOf (files : String → Option String) (s : Settings) : WeightStore :=
  match s.weightsPath with
  | some path => .following (files path)
  | none => .fixed .default

def synonymsOf (files : String → Option String) (s : Settings) : Except SynonymMap.LoadError SynonymMap :=
  match s.synonymsPath with
  | some path => SynonymMap.load (files path)
  | none => .ok .empty

def sourcesOf (network : Http.Network) (s : Settings) (synonyms : SynonymMap) : Sources where
  stoplist := .default
  synonyms := synonyms.find
  classifier := s.classifier.url.map (Http.Classifier.client network)
  patience := s.classifier.patience

def engineOf (network : Http.Network) (s : Settings) (sources : Sources) : Engine where
  sources := sources
  embedder := s.embedder.url.map (Http.Embedder.client network)
  embedPatience := s.embedder.patience
  reranker := s.reranker.url.map (Http.Reranker.client network)
  rerankPatience := s.reranker.patience
  backend := Http.MultiSearch.client network s.backend
  indexBase := s.index.resources
  poolSize := s.index.poolSize

def suggesterOf (network : Http.Network) (s : Settings) (sources : Sources) : Suggester where
  sources := sources
  backend := Http.MultiSearch.client network s.backend
  indexBase := s.index.taxonomies

/-- Starts the service. Only synonyms that are asked for and cannot be had keep it from starting. -/
def start (network : Http.Network) (files : String → Option String) (s : Settings) :
    Except SynonymMap.LoadError Service :=
  (synonymsOf files s).map fun synonyms =>
    let sources := sourcesOf network s synonyms
    ⟨s, storeOf files s, engineOf network s sources, suggesterOf network s sources⟩

def pollWeights (files : String → Option String) (s : Service) : Except ReloadError (Service × Bool) :=
  (s.store.poll (s.settings.weightsPath.bind files)).map fun (store, changed) =>
    ({ s with store := store }, changed)

def health (s : Service) : Json :=
  .object [("status", .str "ok"), ("weights_version", .str s.store.snapshot.version)]

/-- The weights that a new request is resolved against. -/
def weights (s : Service) : Json :=
  .present [("fingerprint", some (.str s.store.snapshot.fingerprint)),
    ("source", s.settings.weightsPath.map .str), ("weights", some s.store.snapshot.json)]

def search (s : Service) (r : SearchRequest) : ServiceResponse :=
  .ofResult SearchResponse.json (s.engine.search s.store.snapshot r).value

def suggest (s : Service) (version : String) (r : SuggestRequest) : ServiceResponse :=
  match Version.parse version with
  | .error digits => .ofError (.invalid (.version digits))
  | .ok version => .ofResult SuggestResponse.json (s.suggester.suggest version r).value

/-- Whether a content type promises a JSON body. -/
def promisesJson (contentType : Option String) : Bool :=
  (contentType.bind Http.MediaType.parse?).any (·.isJson)

def readBody {α : Type} (decode : Reading → Decoded α) (r : ServiceRequest) : Except ServiceResponse α :=
  if !promisesJson r.contentType then .error (.bare 415)
  else
    match Reading.ofText decode r.body with
    | .ok a => .ok a
    | .error .broken => .error (.bare 400)
    | .error _ => .error (.bare 422)

def withBody {α : Type} (decode : Reading → Decoded α) (r : ServiceRequest) (handle : α → ServiceResponse) :
    ServiceResponse :=
  match readBody decode r with
  | .ok a => handle a
  | .error response => response

def onRoute (s : Service) (r : ServiceRequest) : Route → ServiceResponse
  | .health => .ok s.health
  | .weights => .ok s.weights
  | .search => withBody SearchRequest.decode r s.search
  | .suggest (some version) => withBody SuggestRequest.decode r (s.suggest version)
  | .suggest none => .bare 400

def respond (s : Service) (r : ServiceRequest) : ServiceResponse :=
  match Route.ofTarget? r.target with
  | none => .bare 404
  | some route =>
    if !route.allows r.method then .bare 405
    else if r.method = "HEAD" then .bare (s.onRoute r route).status
    else s.onRoute r route

end Service

end HybridSearch
