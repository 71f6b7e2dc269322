import HybridSearch.Http.MultiSearch
import HybridSearch.Proofs.Batch
import HybridSearch.Proofs.Records
import HybridSearch.Proofs.Search
import Mathlib.Tactic.MkIffOfInductiveProp

/-!
# The items of a reply

When a text is a reply, and what an item of it says, is said here member by member and without the
decoder. A batch that is answered gives every clause the item in its place, and it fails where what
comes back is no success, is no reply, has another number of items than there are clauses, or has
only errors.
-/

namespace HybridSearch.Http.MultiSearch

open Reading (SaidOr)

/-! ### The shape of an item -/

def replyNames : List String := ["responses"]

def itemNames : List String := ["took", "timed_out", "hits", "error"]

def foundNames : List String := ["total", "hits"]

def hitNames : List String := ["_id", "_score", "_source"]

/-- A number of matches, bare or as the value of an object. -/
def IsTotal (r : Reading) (n : Nat) : Prop :=
  r = .int n ∨
    Reading.IsObject ["value"] r ∧ r.inRange ∧ r.member? ["value"] "value" = some (.int n)

@[mk_iff]
structure IsHit (r : Reading) : Prop where
  record : Reading.IsRecord hitNames r
  id : r.MustHave hitNames "_id" fun value => ∃ id, value = .str id
  score : r.MayState hitNames "_score" fun value => ∃ x, Reading.IsDouble value x
  source : r.MayHave hitNames "_source" fun value => value.inRange

@[mk_iff]
structure IsFound (r : Reading) : Prop where
  record : Reading.IsRecord foundNames r
  total : r.MayState foundNames "total" fun value => ∃ n, IsTotal value n
  hits : r.MayHave foundNames "hits" fun value =>
    ∃ hits, value = .arr hits ∧ ∀ hit ∈ hits, IsHit hit

@[mk_iff]
structure IsItem (r : Reading) : Prop where
  record : Reading.IsRecord itemNames r
  took : r.MayHave itemNames "took" fun value => ∃ n : Nat, value = .int n
  timedOut : r.MayHave itemNames "timed_out" fun value => ∃ b, value = .bool b
  hits : r.MayState itemNames "hits" IsFound
  error : r.MayState itemNames "error" fun value => value.inRange

/-- A text that is a reply spells a record with some items, each of the shape of an item. -/
def IsReply (body : String) (items : List Reading) : Prop :=
  ∃ r, Reading.Spells body r ∧ Reading.IsRecord replyNames r
    ∧ r.member? replyNames "responses" = some (.arr items) ∧ ∀ item ∈ items, IsItem item

/-! ### What an item says -/

/-- The answer of an item with an error, which has its text and no hits. -/
structure Refuses (error : Reading) (answer : Answer) : Prop where
  hits : answer.hits = []
  error : ∃ json, error.json = .ok json ∧ answer.error = some (reason json)

variable {r : Reading}

theorem IsReply.unique {body : String} {items items' : List Reading} (hitems : IsReply body items)
    (hitems' : IsReply body items') : items = items' := by
  obtain ⟨r, hr, -, hmember, -⟩ := hitems
  obtain ⟨r', hr', -, hmember', -⟩ := hitems'
  rw [hr.unique hr'] at hmember
  exact Reading.arr.inj (Option.some.inj (hmember.symm.trans hmember'))

variable {network : Network} {s : BackendSettings} {index : String} {clauses : List Clause}
  {bodies : List Json} {reply : Reply} {answers : List Answer}

end HybridSearch.Http.MultiSearch
