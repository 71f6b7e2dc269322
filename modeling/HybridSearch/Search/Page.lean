import HybridSearch.Cursor
import HybridSearch.Rerank

/-!
Pages of the ranked pool. A page is cut first and may then be reordered, so what a reranker answers has no part in
where the next page begins.
-/

namespace HybridSearch

structure Page where
  hits : List CombinedHit
  next : Option Cursor

namespace Page

/-- The page after a cursor. -/
def cut (pool : List CombinedHit) (cursor : Option Cursor) (limit : Nat) (fingerprint : String) : Page :=
  let remaining := pageAfter pool cursor
  let hits := remaining.take limit
  ⟨hits, if limit < remaining.length then hits.getLast?.map (Cursor.ofHit · fingerprint) else none⟩

/-- What a reranker reads of a hit: its name and its description. -/
def passage (hit : CombinedHit) : Passage :=
  ⟨hit.id, ". ".intercalate
    (["name", "description"].filterMap fun field => (hit.source.get? field).bind Json.str?)⟩

def arrange (hits : List CombinedHit) (order : List String) : List CombinedHit :=
  order.filterMap fun id => hits.find? (·.id = id)

/-- Reorders hits by a reranker, if there is one, a query to rank by, and something to reorder. -/
def rerank (patience : Nat) (hits : List CombinedHit) :
    Option Reranker → Option String → Traced (List CombinedHit)
  | some reranker, some query =>
    if hits.length ≤ 1 then pure hits
    else arrange hits <$> Rerank.run reranker patience query (hits.map passage)
  | _, _ => pure hits

end Page

end HybridSearch
