import HybridSearch.Embedding
import HybridSearch.Classification
import HybridSearch.Http.Message
import HybridSearch.Json.Text
import HybridSearch.Rerank
import HybridSearch.Text.Basic

/-!
The outside services over a network. Each is posted a JSON body and answers with one.
-/

namespace HybridSearch.Http

structure Wording where
  unreachable : String
  service : String
  unreadable : String

/-- Why a service gave no answer. -/
inductive Failure where
  | unreachable
  | status (reply : Reply)
  | unreadable
deriving DecidableEq

def Failure.message (w : Wording) : Failure → String
  | unreachable => w.unreachable
  | status reply => s!"{w.service} returned {statusText reply.status}: {reply.body}"
  | unreadable => w.unreadable

variable {α : Type}

def readReply (decode : Reading → Decoded α) : Option Reply → Except Failure α
  | none => .error .unreachable
  | some reply =>
    if reply.isSuccess then
      match Reading.ofText decode reply.body with
      | .ok a => .ok a
      | .error _ => .error .unreadable
    else .error (.status reply)

/-- Asks a service. The network keeps its own time. -/
def ask (network : Network) (w : Wording) (decode : Reading → Decoded α) (request : Request) : Except String α :=
  (readReply decode (network request)).mapError (Failure.message w)

def jsonRequest (url : String) (body : Json) : Request := ⟨url, "application/json", none, body.text⟩

namespace Embedder

def wording : Wording :=
  ⟨"Failed to call embedding service", "Embedding service", "Failed to parse embedding response"⟩

def component : Reading → Decoded Float
  | .int n => .ok (singleOfInt n)
  | r => toSingle <$> r.double

def decode : Reading → Decoded (List Float) :=
  Reading.record ["embedding"] fun r => r.required "embedding" (Reading.list component)

def request (url text : String) : Request :=
  jsonRequest url (.object [("text", .str (Embedding.truncate text))])

def client (network : Network) (url : String) : HybridSearch.Embedder := fun text =>
  .atOnce (ask network wording decode (request url text))

end Embedder

namespace Classifier

def wording : Wording :=
  ⟨"Failed to call intent classifier", "Intent classifier", "Failed to parse intent classification"⟩

/-- A classification whose codes are not blank, each once. -/
def clean (c : Classification) : Classification :=
  { c with taxonomyCodes := (c.taxonomyCodes.filter fun code => !Text.isBlank code).eraseDups }

def decode (r : Reading) : Decoded Classification := clean <$> Classification.decode r

def request (url query : String) : Request := jsonRequest url (.object [("query", .str query)])

def client (network : Network) (url : String) : HybridSearch.Classifier := fun query =>
  .atOnce (ask network wording decode (request url query))

end Classifier

namespace Reranker

def wording : Wording :=
  ⟨"Failed to reach reranker endpoint", "Reranker", "Failed to parse reranker response"⟩

def passageLimit : Nat := 1000

def cut (p : Passage) : Passage := { p with text := .ofList (p.text.toList.take passageLimit) }

def decodeRanked : Reading → Decoded RankedPassage :=
  Reading.record ["id", "score"] fun r =>
    (fun id score => ⟨id, .ofFloat score⟩) <$> r.required "id" Reading.string
      <*> r.required "score" Reading.double

def decode : Reading → Decoded (List RankedPassage) :=
  Reading.record ["ranked_results"] fun r => r.required "ranked_results" (Reading.list decodeRanked)

/-- The members stand in the order in which the service is sent them. -/
def request (url query : String) (passages : List Passage) (wanted : Nat) : Request :=
  jsonRequest url (.obj [("query", .str query),
    ("documents", .arr (passages.map fun p => (cut p).json)), ("top_k", .nat wanted)])

def client (network : Network) (url : String) : HybridSearch.Reranker := fun query passages wanted =>
  .atOnce (ask network wording decode (request url query passages wanted))

end Reranker

end HybridSearch.Http
