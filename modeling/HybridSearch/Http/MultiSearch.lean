import HybridSearch.Batch
import HybridSearch.Http.Client
import HybridSearch.Settings
import HybridSearch.Text.Base64

/-!
The search backend over a network. All queries of a batch go out in one request, a header line and a body line for
each, and the reply has one item per query in their order.
-/

namespace HybridSearch.Http.MultiSearch

def header (index : String) : Json := .object [("index", .str index)]

def lines (index : String) (bodies : List Json) : List (List Char) :=
  bodies.flatMap fun body => [(header index).chars, body.chars]

/-- The lines, each with its end. -/
def payload (index : String) (bodies : List Json) : String :=
  .ofList ((lines index bodies).flatMap (· ++ ['\n']))

/-- The number of matches: the value of an object, or bare. Which it is shows once all of it is read. -/
def total (r : Reading) : Decoded Nat :=
  match r.json with
  | .error fault => .error fault
  | .ok _ =>
    match Reading.object ["value"] (fun m => m.required "value" Reading.unsigned) r with
    | .ok n => .ok n
    | .error _ => r.unsigned

def hit : Reading → Decoded Hit :=
  Reading.record ["_id", "_score", "_source"] fun r =>
    (fun id score source => ⟨id, .ofFloat (score.getD 0), source⟩) <$> r.required "_id" Reading.string
      <*> r.nullable "_score" Reading.double
      <*> r.orElse "_source" Reading.json .null

structure Found where
  total : Option Nat
  hits : List Hit

def found : Reading → Decoded Found :=
  Reading.record ["total", "hits"] fun r =>
    Found.mk <$> r.nullable "total" total <*> r.orElse "hits" (Reading.list hit) []

def reason (error : Json) : String :=
  ((error.get? "reason").bind Json.str?).getD error.text

/-- One item of a reply. An item with an error has nothing else. -/
def answer (took : Nat) (timedOut : Bool) (found : Option Found) : Option Json → Answer
  | some error => .refused (reason error)
  | none =>
    let hits := found.elim [] (·.hits)
    ⟨took, (found.bind (·.total)).getD hits.length, timedOut, hits, none⟩

def item : Reading → Decoded Answer :=
  Reading.record ["took", "timed_out", "hits", "error"] fun r =>
    answer <$> r.orElse "took" Reading.unsigned 0
      <*> r.orElse "timed_out" Reading.flag false
      <*> r.nullable "hits" found
      <*> r.nullable "error" Reading.json

def decode : Reading → Decoded (List Answer) :=
  Reading.record ["responses"] fun r => r.required "responses" (Reading.list item)

def wording : Wording :=
  ⟨"Failed to reach search backend", "Search backend", "Failed to parse multi-search response"⟩

def authorization (s : BackendSettings) : Option String :=
  s.username.map fun user =>
    let credentials := user ++ ":" ++ s.password.getD ""
    "Basic " ++ .ofList (Text.base64Chars credentials.toUTF8.toList)

def url (s : BackendSettings) : String :=
  .ofList (Text.trimEndWhile (· = '/') s.url.toList) ++ "/_msearch"

def request (s : BackendSettings) (index : String) (bodies : List Json) : Request :=
  ⟨url s, "application/x-ndjson", authorization s, payload index bodies⟩

def countMessage (answers queries : Nat) : String :=
  s!"Search backend answered {answers} of {queries} queries"

/-- Every query needs its answer. -/
def complete (queries : Nat) (answers : List Answer) : Except String (List Answer) :=
  if answers.length = queries then .ok answers else .error (countMessage answers.length queries)

def client (network : Network) (s : BackendSettings) : Backend := fun index bodies =>
  if bodies.isEmpty then .ok []
  else (ask network wording decode (request s index bodies)).bind (complete bodies.length)

end HybridSearch.Http.MultiSearch
