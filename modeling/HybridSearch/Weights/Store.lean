import HybridSearch.Weights.Document

/-!
The weight store. It serves one snapshot at a time and replaces it only by a candidate whose fields are all in bounds;
a store may follow a document that changes outside it.
-/

namespace HybridSearch

inductive ReloadError where
  | unreadable
  | malformed
  | invalid (violations : List Violation)

def ReloadError.message : ReloadError → String
  | unreadable => "failed to read weight source"
  | malformed => "failed to parse weight document"
  | invalid violations => "weight document rejected: " ++ violationsMessage violations

def Weights.load (content : Option String) : Except ReloadError Weights :=
  match content with
  | none => .error .unreadable
  | some text =>
    match parse? text with
    | none => .error .malformed
    | some w => if w.isValid then .ok w else .error (.invalid w.violations)

structure WeightStore where
  snapshot : Weights
  /-- Whether the store follows a document. -/
  followsSource : Bool

namespace WeightStore

/-- A store that follows no document. -/
def fixed (initial : Weights) : WeightStore := ⟨initial, false⟩

/-- A store that follows a document, given its content; without a usable one the defaults are served. -/
def following (content : Option String) : WeightStore :=
  match Weights.load content with
  | .ok w => ⟨w, true⟩
  | .error _ => ⟨.default, true⟩

/-- Takes a candidate if it is in bounds. -/
def reload (store : WeightStore) (candidate : Weights) : Except ReloadError WeightStore :=
  if candidate.isValid then .ok { store with snapshot := candidate }
  else .error (.invalid candidate.violations)

/-- Looks at the document again. Gives the store and whether its snapshot is a new one. -/
def poll (store : WeightStore) (content : Option String) : Except ReloadError (WeightStore × Bool) :=
  if !store.followsSource then .ok (store, false)
  else
    match Weights.load content with
    | .error e => .error e
    | .ok candidate =>
      if store.snapshot == candidate then .ok (store, false)
      else
        match store.reload candidate with
        | .ok next => .ok (next, true)
        | .error e => .error e

/-- A poll whose failure is passed over, as in the background. -/
def tick (store : WeightStore) (content : Option String) : WeightStore :=
  match store.poll content with
  | .ok (next, _) => next
  | .error _ => store

def ticks (store : WeightStore) (content : Option String) : Nat → WeightStore
  | 0 => store
  | n + 1 => (store.tick content).ticks content n

end WeightStore

end HybridSearch
