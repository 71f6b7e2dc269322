import HybridSearch.Json.Basic
import Mathlib.Data.List.Induction
import Mathlib.Tactic.SplitIfs

/-!
# Members of objects

An object is built by putting one member after another into its place, and the last value of a name
is the one that is found under it.
-/

namespace HybridSearch

theorem lookup_member {α : Type} (name other : String) (value : α) (members : List (String × α)) :
    ((name, value) :: members).lookup other
      = if other = name then some value else members.lookup other := by
  rw [List.lookup_cons]
  by_cases hname : other = name
  · simp [hname]
  · rw [beq_false_of_ne hname, if_neg hname]

theorem mem_of_lookup {α : Type} {name : String} {value : α} {members : List (String × α)}
    (hlookup : members.lookup name = some value) : (name, value) ∈ members := by
  obtain ⟨before, after, rfl, -⟩ := List.lookup_eq_some_iff.mp hlookup
  simp

theorem lookup_insertMember {α : Type} (name other : String) (value : α)
    (members : List (String × α)) :
    (insertMember name value members).lookup other
      = if other = name then some value else members.lookup other := by
  induction members with
  | nil => exact lookup_member name other value []
  | cons member members ih =>
      obtain ⟨n, v⟩ := member
      rw [insertMember]
      split
      · rw [lookup_member]
      · split
        · rename_i heq
          subst heq
          rw [lookup_member, lookup_member]
          by_cases hname : other = name <;> simp only [hname, ↓reduceIte]
        · rename_i hne
          rw [lookup_member, lookup_member, ih]
          by_cases hn : other = n
          · subst hn
            rw [if_pos rfl, if_neg (Ne.symm hne), if_pos rfl]
          · rw [if_neg hn, if_neg hn]

theorem mem_of_mem_insertMember {α : Type} {name : String} {value : α} {m : String × α}
    {members : List (String × α)} (hm : m ∈ insertMember name value members) :
    m = (name, value) ∨ m ∈ members := by
  induction members with
  | nil => exact .inl (List.mem_singleton.mp hm)
  | cons member members ih =>
      obtain ⟨n, v⟩ := member
      rw [insertMember] at hm
      split_ifs at hm <;> grind

theorem mem_of_mem_sortMembers {α : Type} {m : String × α} {members : List (String × α)}
    (hm : m ∈ sortMembers members) : m ∈ members := by
  induction members using List.reverseRecOn with
  | nil => exact hm
  | append_singleton members member ih =>
      simp only [sortMembers, List.foldl_append, List.foldl_cons, List.foldl_nil] at hm
      rcases mem_of_mem_insertMember hm with rfl | hm
      · exact List.mem_append_right members List.mem_cons_self
      · exact List.mem_append_left _ (ih hm)

/-- The last member put into an object hides those of its name before. -/
theorem Json.get?_object_concat (name other : String) (value : Json)
    (members : List (String × Json)) :
    (Json.object (members ++ [(other, value)])).get? name
      = if name = other then some value else (Json.object members).get? name := by
  simp only [Json.object, sortMembers, Json.get?, List.foldl_append, List.foldl_cons,
    List.foldl_nil]
  exact lookup_insertMember other name value _

theorem Json.get?_object_last (name : String) (value : Json) (members : List (String × Json)) :
    (Json.object (members ++ [(name, value)])).get? name = some value := by
  rw [Json.get?_object_concat, if_pos rfl]

theorem Json.object_pair {name other : String} (hlt : name < other) (value value' : Json) :
    Json.object [(name, value), (other, value')] = .obj [(name, value), (other, value')] := by
  have hafter : ¬ other < name := String.lt_asymm hlt
  have hne : other ≠ name := by
    rintro rfl
    exact String.lt_irrefl _ hlt
  simp [Json.object, sortMembers, insertMember, hafter, hne]

end HybridSearch
