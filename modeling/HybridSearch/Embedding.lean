import HybridSearch.Attempt
import HybridSearch.Call

/-!
Embedding vectors of texts, as single-precision numbers.
-/

namespace HybridSearch

abbrev Embedder := String → Attempt (List Float)

namespace Embedding

/-- A vector with at least one component, given in time; otherwise the search goes on without one. -/
def ofAttempt (limit : Nat) (attempt : Attempt (List Float)) : Option (List Float) :=
  (attempt.within limit).filter fun vector => !vector.isEmpty

def ask (limit : Nat) : Option Embedder → Option String → Traced (Option (List Float))
  | some embedder, some text => ⟨ofAttempt limit (embedder text), [.embed text]⟩
  | _, _ => pure none

/-- The most bytes of a text that are embedded. -/
def byteLimit : Nat := 2000

/-- The last place at or before a byte of a text where no character is cut in two, looked for from that byte down. -/
def boundary? (text : String) : Nat → Option text.Pos
  | 0 => if h : String.Pos.Raw.IsValid text 0 then some ⟨0, h⟩ else none
  | n + 1 => if h : String.Pos.Raw.IsValid text ⟨n + 1⟩ then some ⟨⟨n + 1⟩, h⟩ else boundary? text n

/-- The search ends at the start of the text at the latest. -/
theorem isSome_boundary? (text : String) (n : Nat) : (boundary? text n).isSome := by
  induction n with
  | zero => simp [boundary?, String.Pos.Raw.isValid_zero]
  | succ n ih =>
    rw [boundary?]
    split
    · rfl
    · exact ih

def truncate (text : String) : String :=
  if text.utf8ByteSize ≤ byteLimit then text
  else (text.sliceTo ((boundary? text byteLimit).get (isSome_boundary? text byteLimit))).copy

end Embedding

end HybridSearch
