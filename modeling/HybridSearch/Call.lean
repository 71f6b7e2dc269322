import HybridSearch.Json.Basic

/-!
Calls of the outside services, recorded with what is asked.
-/

namespace HybridSearch

structure Passage where
  id : String
  text : String
deriving DecidableEq

/-- The members stand in the order in which a reranker is sent them. -/
def Passage.json (p : Passage) : Json := .obj [("id", .str p.id), ("text", .str p.text)]

inductive Call where
  | embed (text : String)
  | classify (query : String)
  | search (index : String) (bodies : List Json)
  | rerank (query : String) (passages : List Passage) (wanted : Nat)

/-- A value, and the calls made for it in their order. -/
structure Traced (α : Type) where
  value : α
  calls : List Call

namespace Traced

variable {α β : Type}

instance : Monad Traced where
  pure a := ⟨a, []⟩
  bind t f := ⟨(f t.value).value, t.calls ++ (f t.value).calls⟩

@[simp] theorem value_pure (a : α) : (pure a : Traced α).value = a := rfl

@[simp] theorem calls_pure (a : α) : (pure a : Traced α).calls = [] := rfl

@[simp] theorem value_bind (t : Traced α) (f : α → Traced β) : (t >>= f).value = (f t.value).value :=
  rfl

@[simp] theorem calls_bind (t : Traced α) (f : α → Traced β) :
    (t >>= f).calls = t.calls ++ (f t.value).calls := rfl

@[simp] theorem value_map (f : α → β) (t : Traced α) : (f <$> t).value = f t.value := rfl

@[simp] theorem calls_map (f : α → β) (t : Traced α) : (f <$> t).calls = t.calls :=
  List.append_nil t.calls

end Traced

end HybridSearch
