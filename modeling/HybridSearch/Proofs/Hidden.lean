import HybridSearch.Proofs.Json
import HybridSearch.Proofs.Resume

/-!
# What a document does not show

A document is seen here through the paths that lead down into it: at the end of each there is a
plain value, an array of some length, or an object with some names. Stripping cuts off the paths
through a hidden name, and leaves what stands at the ends of the others as it is, except that objects
lose the hidden names. The rest of a hit has no such name of its own, so no response shows one at any
depth.
-/

namespace HybridSearch

/-! ### Paths into a value -/

namespace Json

/-- One step down into a value. -/
inductive Step where
  | member (name : String)
  | item (index : Nat)
deriving DecidableEq

def step? : Json → Step → Option Json
  | .obj members, .member name => members.lookup name
  | .arr items, .item index => items[index]?
  | _, _ => none

/-- The value at the end of a path. -/
def at? (j : Json) : List Step → Option Json
  | [] => some j
  | s :: path => (j.step? s).bind (at? · path)

/-- What a value is, apart from what stands further down. -/
inductive Node where
  | plain (value : Json)
  | arr (length : Nat)
  | obj (names : List String)

def node : Json → Node
  | .arr items => .arr items.length
  | .obj members => .obj (members.map (·.1))
  | j => .plain j

def nodeAt? (j : Json) (path : List Step) : Option Node := (j.at? path).map node

/-- A node without the names of some kind. -/
def Node.without (p : String → Bool) : Node → Node
  | .obj names => .obj (names.filter (!p ·))
  | n => n

def Step.isNamed (p : String → Bool) : Step → Bool
  | .member name => p name
  | .item _ => false

/-- Whether a path goes through a name of some kind. -/
def passes (p : String → Bool) (path : List Step) : Bool := path.any (·.isNamed p)

/-- Whether no path into a value goes through a name of some kind. -/
def Lacks (p : String → Bool) (j : Json) : Prop := ∀ path, passes p path → j.at? path = none

section

variable {p : String → Bool}

theorem at?_cons (j : Json) (s : Step) (path : List Step) :
    j.at? (s :: path) = (j.step? s).bind (at? · path) := rfl

theorem passes_cons (s : Step) (path : List Step) :
    passes p (s :: path) = (s.isNamed p || passes p path) := rfl

theorem lacks_of_steps {j : Json}
    (hsteps : ∀ s j', j.step? s = some j' → s.isNamed p = false ∧ j'.Lacks p) : j.Lacks p := by
  intro path hpath
  cases path with
  | nil => cases hpath
  | cons s path =>
      rw [at?_cons, Option.bind_eq_none_iff]
      intro j' hstep
      obtain ⟨hnamed, hj'⟩ := hsteps s j' hstep
      rw [passes_cons, hnamed, Bool.false_or] at hpath
      exact hj' path hpath

theorem lacks_arr {items : List Json} (hitems : ∀ j ∈ items, j.Lacks p) :
    (Json.arr items).Lacks p := by
  apply lacks_of_steps
  rintro (name | index) j hstep
  · cases hstep
  · exact ⟨rfl, hitems j (List.mem_of_getElem? hstep)⟩

theorem lacks_obj {members : List (String × Json)}
    (hmembers : ∀ m ∈ members, p m.1 = false ∧ m.2.Lacks p) : (Json.obj members).Lacks p := by
  apply lacks_of_steps
  rintro (name | index) j hstep
  · exact hmembers (name, j) (mem_of_lookup hstep)
  · cases hstep

theorem lacks_object {members : List (String × Json)}
    (hmembers : ∀ m ∈ members, p m.1 = false ∧ m.2.Lacks p) : (object members).Lacks p :=
  lacks_obj fun m hm => hmembers m (mem_of_mem_sortMembers hm)

theorem lacks_present {members : List (String × Option Json)}
    (hmembers : ∀ m ∈ members, p m.1 = false ∧ ∀ j ∈ m.2, j.Lacks p) :
    (present members).Lacks p := by
  apply lacks_object
  intro m hm
  obtain ⟨⟨name, value?⟩, hlisted, hvalue⟩ := List.mem_filterMap.mp hm
  obtain ⟨j, hj, rfl⟩ := Option.map_eq_some_iff.mp hvalue
  obtain ⟨hname, hvalues⟩ := hmembers _ hlisted
  exact ⟨hname, hvalues j hj⟩

end

theorem lacks_str (p : String → Bool) (s : String) : (Json.str s).Lacks p :=
  lacks_of_steps fun s _ hstep => by cases s <;> cases hstep

theorem lacks_number (p : String → Bool) (x : Float) : (number x).Lacks p := by
  apply lacks_of_steps
  intro s j hstep
  unfold number at hstep
  split_ifs at hstep <;> cases s <;> cases hstep

end Json

/-! ### Stripping -/

namespace Snippet

open Json

variable (withoutArea : Bool)

theorem hidden_iff (name : String) : hidden withoutArea name ↔
    (∃ stem, name = stem ++ "embedding") ∨
      withoutArea = true ∧ (name = "service_area" ∨ name = "service_areas") := by
  have hends : "embedding".toList.isSuffixOf name.toList ↔ ∃ stem, name = stem ++ "embedding" := by
    rw [List.isSuffixOf_iff_suffix]
    constructor
    · rintro ⟨stem, hname⟩
      exact ⟨.ofList stem, by rw [← String.toList_inj, ← hname]; simp⟩
    · rintro ⟨stem, rfl⟩
      exact ⟨stem.toList, by simp⟩
  rw [hidden, Bool.or_eq_true, hends]
  simp

theorem stripItems_eq (items : List Json) :
    stripItems withoutArea items = items.map (strip withoutArea) := by
  induction items with
  | nil => rfl
  | cons j items ih => rw [stripItems, ih, List.map_cons]

theorem stripMembers_eq (members : List (String × Json)) : stripMembers withoutArea members =
    (members.filter (!hidden withoutArea ·.1)).map fun m => (m.1, strip withoutArea m.2) := by
  induction members with
  | nil => rfl
  | cons member members ih =>
      obtain ⟨name, j⟩ := member
      rw [stripMembers, ih]
      cases hname : hidden withoutArea name <;> simp [hname]

theorem lookup_stripMembers (name : String) (members : List (String × Json)) :
    (stripMembers withoutArea members).lookup name =
      if hidden withoutArea name then none else (members.lookup name).map (strip withoutArea) := by
  induction members with
  | nil => simp [stripMembers]
  | cons member members ih =>
      obtain ⟨n, j⟩ := member
      rw [stripMembers, lookup_member]
      by_cases hn : name = n
      · subst hn
        cases hname : hidden withoutArea name <;> simp [hname, ih]
      · cases hidden withoutArea n <;> simp [hn, ih, lookup_member]

theorem node_strip (j : Json) :
    (strip withoutArea j).node = j.node.without (hidden withoutArea) := by
  cases j with
  | arr items => simp [strip, node, Node.without, stripItems_eq]
  | obj members =>
      simp [strip, node, Node.without, stripMembers_eq, List.filter_map, Function.comp_def]
  | _ => rfl

theorem step?_strip (j : Json) (s : Step) : (strip withoutArea j).step? s =
    if s.isNamed (hidden withoutArea) then none else (j.step? s).map (strip withoutArea) := by
  cases s with
  | member name =>
      cases j with
      | obj members => exact lookup_stripMembers withoutArea name members
      | _ => simp [strip, step?]
  | item index =>
      cases j with
      | arr items => simp [strip, step?, Step.isNamed, stripItems_eq]
      | _ => simp [strip, step?]

theorem at?_strip (j : Json) (path : List Step) : (strip withoutArea j).at? path =
    if passes (hidden withoutArea) path then none else (j.at? path).map (strip withoutArea) := by
  induction path generalizing j with
  | nil => rfl
  | cons s path ih =>
      rw [at?_cons, step?_strip, passes_cons]
      cases hs : s.isNamed (hidden withoutArea) with
      | true => rfl
      | false =>
          cases hstep : j.step? s with
          | none => simp [at?_cons, hstep]
          | some j' => simp [at?_cons, hstep, ih]

theorem lacks_strip (j : Json) : (strip withoutArea j).Lacks (hidden withoutArea) := by
  intro path hpath
  rw [at?_strip, if_pos hpath]

theorem hidden_or (first second : Bool) (name : String) :
    (hidden first name || hidden second name) = hidden (first || second) name := by
  rw [Bool.eq_iff_iff, Bool.or_eq_true, hidden_iff, hidden_iff, hidden_iff, Bool.or_eq_true]
  tauto

mutual

/-- Stripping twice hides what either time hides. -/
theorem strip_strip (first second : Bool) :
    ∀ j, strip first (strip second j) = strip (first || second) j
  | .arr items => by rw [strip, strip, strip, stripItems_stripItems first second items]
  | .obj members => by rw [strip, strip, strip, stripMembers_stripMembers first second members]
  | .null | .bool _ | .int _ | .float _ | .str _ => rfl

theorem stripItems_stripItems (first second : Bool) :
    ∀ items, stripItems first (stripItems second items) = stripItems (first || second) items
  | [] => rfl
  | j :: items => by
      rw [stripItems, stripItems, stripItems, strip_strip first second j,
        stripItems_stripItems first second items]

theorem stripMembers_stripMembers (first second : Bool) : ∀ members,
    stripMembers first (stripMembers second members) = stripMembers (first || second) members
  | [] => rfl
  | (name, j) :: members => by
      have hrest := stripMembers_stripMembers first second members
      have hj := strip_strip first second j
      simp only [stripMembers, ← hidden_or first second name]
      cases hsecond : hidden second name
      · cases hfirst : hidden first name <;> simp [stripMembers, hfirst, hrest, hj]
      · simp [hrest]

end

end Snippet

/-! ### Hits of a response -/

namespace ResponseHit

open Json Snippet

theorem lacks_contribution (withoutArea : Bool) (c : Contribution) :
    c.json.Lacks (hidden withoutArea) := by
  have hnames : ∀ withoutArea, ∀ name ∈ ["strategy", "pre_weight_score", "weight_applied"],
      hidden withoutArea name = false := by
    decide +kernel
  apply lacks_object
  simp only [List.forall_mem_cons, List.not_mem_nil, false_implies, implies_true, and_true]
  refine ⟨⟨hnames _ _ (by simp), lacks_str _ _⟩, ⟨hnames _ _ (by simp), lacks_number _ _⟩,
    hnames _ _ (by simp), lacks_number _ _⟩

theorem lacks_json {withoutArea : Bool} {h : ResponseHit}
    (hsource : h.source.Lacks (hidden withoutArea)) : h.json.Lacks (hidden withoutArea) := by
  have hnames : ∀ withoutArea, ∀ name ∈ ["_id", "_score", "_source", "_sources", "relevant_text"],
      hidden withoutArea name = false := by
    decide +kernel
  apply lacks_present
  simp only [List.forall_mem_cons, List.not_mem_nil, false_implies, implies_true, and_true]
  refine ⟨⟨hnames _ _ (by simp), ?_⟩, ⟨hnames _ _ (by simp), ?_⟩, ⟨hnames _ _ (by simp), ?_⟩,
    ⟨hnames _ _ (by simp), ?_⟩, hnames _ _ (by simp), ?_⟩
  · rintro _ ⟨⟩
    exact lacks_str _ _
  · rintro _ ⟨⟩
    exact lacks_number _ _
  · rintro _ ⟨⟩
    exact hsource
  · intro j hj
    split_ifs at hj
    · cases hj
    · obtain rfl := Option.mem_some.mp hj
      apply lacks_arr
      intro j hj
      obtain ⟨c, -, rfl⟩ := List.mem_map.mp hj
      exact lacks_contribution withoutArea c
  · intro j hj
    obtain ⟨text, -, rfl⟩ := Option.map_eq_some_iff.mp hj
    exact lacks_str _ _

end ResponseHit

namespace Engine

open Json Snippet

theorem lacks_of_mem_hits {e : Engine} {w : Weights} {r : SearchRequest} {p : SearchResponse}
    (hsearch : (e.search w r).value = .ok p) {h : ResponseHit} (hh : h ∈ p.hits) :
    h.json.Lacks (hidden r.excludeServiceArea) := by
  obtain ⟨plan, found, -, -, rfl⟩ := e.search_eq_ok_iff.mp hsearch
  obtain ⟨hit, -, rfl⟩ := List.mem_map.mp (e.page_hits_perm.mem_iff.mp hh)
  exact ResponseHit.lacks_json (lacks_strip r.excludeServiceArea hit.source)

/-- Stripping removes the hidden names at every depth and nothing else, once is as good as often,
and what one setting hides may be hidden before or after what the other does. Hence no hit of a
response shows a hidden name. -/
theorem strip_removes_hidden :
    (∀ withoutArea name, hidden withoutArea name ↔ (∃ stem, name = stem ++ "embedding") ∨
      withoutArea = true ∧ (name = "service_area" ∨ name = "service_areas")) ∧
    (∀ withoutArea j path, (strip withoutArea j).nodeAt? path =
      if passes (hidden withoutArea) path then none
      else (j.nodeAt? path).map (·.without (hidden withoutArea))) ∧
    (∀ withoutArea j, strip withoutArea (strip withoutArea j) = strip withoutArea j) ∧
    (∀ j, strip true (strip false j) = strip true j ∧ strip false (strip true j) = strip true j) ∧
    ∀ (e : Engine) (w : Weights) (r : SearchRequest) (p : SearchResponse),
      (e.search w r).value = .ok p → ∀ h ∈ p.hits, ∀ path,
        passes (hidden r.excludeServiceArea) path → h.json.at? path = none := by
  refine ⟨hidden_iff, fun withoutArea j path => ?_, fun withoutArea j => ?_, fun j => ⟨?_, ?_⟩,
    fun e w r p hsearch h hh => lacks_of_mem_hits hsearch hh⟩
  · rw [nodeAt?, at?_strip]
    split_ifs
    · rfl
    · simp [nodeAt?, node_strip, Function.comp_def]
  · rw [strip_strip, Bool.or_self]
  · exact strip_strip true false j
  · exact strip_strip false true j

/-- A document with a vector further down. -/
def pantry : Json :=
  .obj [("name", .str "Pantry"), ("service_area", .obj []),
    ("taxonomies", .arr [.obj [("code", .str "BD"), ("name_embedding", .arr [.int 1])]])]

def withoutAreas : SearchRequest := { SearchRequest.empty with excludeServiceArea := true }

/-- The path to a member of the first taxonomy of a document. -/
def taxonomyPath (name : String) : List Step := [.member "taxonomies", .item 0, .member name]

theorem strip_removes_hidden_of_pantry : ∃ p h,
    ((Engine.ofHits [⟨"a", .ofFloat 1, pantry⟩]).search .default withoutAreas).value = .ok p ∧
      p.hits = [h] ∧ h.source.nodeAt? (taxonomyPath "code") = some (.plain (.str "BD")) ∧
      h.json.at? (.member "_source" :: taxonomyPath "name_embedding") = none := by
  let e : Engine := .ofHits [⟨"a", .ofFloat 1, pantry⟩]
  let plan : Plan := ⟨"resources_en", ⟨none, [], [], []⟩, none, none, .default⟩
  let result : StrategyResult :=
    ⟨"browse", .ofFloat 1, 0, 1, false, [⟨"a", .ofFloat 1, pantry⟩], none⟩
  have hplan : Plan.ofRequest e.indexBase .default withoutAreas = .ok plan := rfl
  have hfound : e.retrieve withoutAreas plan = .ok [result] := rfl
  have hpool : plan.pool [result] = [fuse none "a" [(result, ⟨"a", .ofFloat 1, pantry⟩)]] := by
    rw [Plan.pool, combine_eq_insertionSort]
    rfl
  have hhits : (e.page withoutAreas plan [result]).hits
      = [.ofHit true [] (fuse none "a" [(result, ⟨"a", .ofFloat 1, pantry⟩)])] := by
    apply List.perm_singleton.mp
    have hcut : cutHits withoutAreas plan [result]
        = [fuse none "a" [(result, ⟨"a", .ofFloat 1, pantry⟩)]] := by
      rw [cutHits, hpool]
      rfl
    have hperm : (e.page withoutAreas plan [result]).hits.Perm _ := e.page_hits_perm
    rwa [hcut] at hperm
  have hsearch := e.search_eq_ok_iff.mpr ⟨_, _, hplan, hfound, rfl⟩
  obtain ⟨-, hstrip, -, -, hshown⟩ := strip_removes_hidden
  have hkept : passes (hidden true) (taxonomyPath "code") = false := by decide +kernel
  have hhidden : passes (hidden true) (.member "_source" :: taxonomyPath "name_embedding") := by
    decide +kernel
  refine ⟨_, _, hsearch, hhits, ?_, ?_⟩
  · rw [ResponseHit.ofHit, hstrip, hkept]
    rfl
  · exact hshown e .default withoutAreas _ hsearch _ (hhits ▸ List.mem_cons_self) _ hhidden

end Engine

end HybridSearch
