import HybridSearch.Fusion
import HybridSearch.Json.Text

/-!
Cursors. A cursor names the last hit of a page by score and id, with the fingerprint of the weights behind the score.
-/

namespace HybridSearch

structure Cursor where
  score : Score
  id : String
  fingerprint : Option String
deriving DecidableEq

/-- Why a value is no cursor. -/
inductive CursorError where
  | notArray
  | length (count : Nat)
  | score
  | id
  | fingerprint
deriving DecidableEq

def CursorError.message : CursorError → String
  | notArray => "search_after must be an array"
  | length count => s!"search_after must have 2 or 3 elements, got {count}"
  | score => "search_after[0] must be a finite number"
  | id => "search_after[1] must be a document id"
  | fingerprint => "search_after[2] must be a string"

namespace Cursor

def ofHit (hit : CombinedHit) (fingerprint : String) : Cursor := ⟨hit.total, hit.id, some fingerprint⟩

def score? (j : Json) : Option Score :=
  match j.float? with
  | some x => if x.isFinite then some (.ofFloat x) else none
  | none => none

/-- A document id; a number is an id by its digits. -/
def id? : Json → Option String
  | .str s => if s = "" then none else some s
  | j => j.numberChars?.map .ofList

def fingerprint? : Option Json → Option (Option String)
  | none => some none
  | some .null => some none
  | some (.str s) => some (some s)
  | some _ => none

def decodeParts (score id : Json) (fingerprint : Option Json) : Except CursorError Cursor :=
  match score? score, id? id, fingerprint? fingerprint with
  | none, _, _ => .error .score
  | _, none, _ => .error .id
  | _, _, none => .error .fingerprint
  | some s, some i, some f => .ok ⟨s, i, f⟩

def decode : Json → Except CursorError Cursor
  | .arr [score, id] => decodeParts score id none
  | .arr [score, id, fingerprint] => decodeParts score id (some fingerprint)
  | .arr items => .error (.length items.length)
  | _ => .error .notArray

def json (c : Cursor) : Json :=
  .arr ([.number c.score.toFloat, .str c.id] ++ (c.fingerprint.map .str).toList)

/-- Whether a hit comes after the boundary. -/
def precedes (c : Cursor) (score : Score) (id : String) : Bool :=
  score.rank < c.score.rank || (score.rank = c.score.rank && c.id < id)

end Cursor

/-- The ranked hits after a cursor: after its document if that is among them, else from where it would be. -/
def pageAfter (hits : List CombinedHit) : Option Cursor → List CombinedHit
  | none => hits
  | some c =>
    if hits.any (·.id = c.id) then (hits.dropWhile (·.id ≠ c.id)).drop 1
    else hits.dropWhile fun h => !c.precedes h.total h.id

end HybridSearch
