import HybridSearch.Weights.Store
import HybridSearch.Proofs.Walk

/-!
# Weights that change during a walk

The weight store may take other weights between any two pages of a walk, and come back to the old
ones. A page is cut under one snapshot, and a cursor carries the fingerprint of the weights behind
it. So as long as weights with different numbers have different fingerprints, a request is refused
or answered from the ranking that the walk began with.
-/

namespace HybridSearch

attribute [ext] SemanticWeights StrategyWeights GeospatialWeights VariationWeights

/-- Weights that differ at most in their version and notes. -/
def Weights.SameNumbers (w w' : Weights) : Prop := ∀ f, w.value f = w'.value f

namespace Weights.SameNumbers

variable {w w' : Weights} (hsame : w.SameNumbers w')

include hsame

theorem semantic : w.semantic = w'.semantic :=
  SemanticWeights.ext (hsame .service) (hsame .taxonomy) (hsame .organization)

theorem strategies : w.strategies = w'.strategies :=
  StrategyWeights.ext (hsame .semanticSearch) (hsame .keywordSearch) (hsame .intentDriven)

theorem geospatial : w.geospatial = w'.geospatial :=
  GeospatialWeights.ext (hsame .geoWeight) (hsame .decayScale) (hsame .decayOffset)

theorem variations : w.variations = w'.variations :=
  VariationWeights.ext (hsame .nouns) (hsame .stemmedNouns)

theorem clauses (i : ClauseInputs) (filters : List FilterQuery) :
    i.clauses w filters = i.clauses w' filters := by
  simp only [ClauseInputs.clauses, ClauseInputs.retrievals, ClauseInputs.candidates,
    ClauseInputs.semantic, ClauseInputs.keyword, ClauseInputs.intent,
    hsame.semantic, hsame.strategies, hsame.variations]

end Weights.SameNumbers

section

variable (e : Engine) {r : SearchRequest} {w w' : Weights} {plan : Plan}
  {found : List StrategyResult}

theorem Engine.retrieve_congr {plan' : Plan} (hindex : plan'.index = plan.index)
    (hfilters : plan'.filters = plan.filters) (hsame : plan.weights.SameNumbers plan'.weights) :
    e.retrieve r plan' = e.retrieve r plan := by
  have hclauses (query : Option SearchQuery) (signals : Signals) :
      plan'.clauses e.poolSize query signals = plan.clauses e.poolSize query signals := by
    cases query with
    | none => simp only [Plan.clauses, hfilters]
    | some q => simp only [Plan.clauses, hfilters, hsame.clauses]
  rw [retrieve, retrieve, hindex, hclauses]

theorem Plan.pool_congr {plan' : Plan} (horigin : plan'.origin = plan.origin)
    (hsame : plan.weights.SameNumbers plan'.weights) : plan'.pool found = plan.pool found := by
  rw [pool, pool, horigin, hsame.geospatial]

/-- Under whatever weights, the request that goes on from a page is refused, with nobody called, or
answered from the ranking of that page. -/
theorem Engine.search_resume_cases (hplan : Plan.ofRequest e.indexBase w r = .ok plan)
    (hfound : e.retrieve r plan = .ok found)
    (htell : ∀ u, r.weights w' = .ok u → plan.weights.fingerprint = u.fingerprint →
      plan.weights.SameNumbers u)
    {c : Cursor} (hissued : c.fingerprint = some plan.weights.fingerprint) :
    (∃ cause, e.search w' (r.resume c) = pure (.error (.invalid cause))) ∨
      ∃ p, (e.search w' (r.resume c)).value = .ok p ∧
        p.ids.Perm (((pageAfter (plan.pool found) (some c)).take r.pageSize).map (·.id)) ∧
        p.next
          = (Page.cut (plan.pool found) (some c) r.pageSize plan.weights.fingerprint).next := by
  cases hresumed : Plan.ofRequest e.indexBase w' (r.resume c) with
  | error cause => exact .inl ⟨cause, e.search_of_invalid hresumed⟩
  | ok resumed =>
      obtain ⟨-, hweights, hfresh, hplanned⟩ := (Plan.ofRequest_resume_eq_ok_iff hplan).mp hresumed
      have hfingerprint : plan.weights.fingerprint = resumed.weights.fingerprint := by
        simpa [Cursor.isStale, hissued] using hfresh
      -- The cursor went through, so the weights are those of the page but for their notes.
      have hsame := htell _ hweights hfingerprint
      have hpool : resumed.pool found = plan.pool found := Plan.pool_congr (by rw [hplanned]) hsame
      have hfound' : e.retrieve (r.resume c) resumed = .ok found :=
        (e.retrieve_congr (by rw [hplanned]) (by rw [hplanned]) hsame).trans hfound
      have hcursor : resumed.cursor = some c := by rw [hplanned]
      refine .inr ⟨e.page (r.resume c) resumed found,
        e.search_eq_ok_iff.mpr ⟨resumed, found, hresumed, hfound', rfl⟩, ?_, ?_⟩
      · rw [← hpool, ← hcursor]
        exact e.page_ids_perm
      · rw [← hpool, ← hcursor, hfingerprint]
        rfl

end

/-- Whether weights that a request has under some snapshots, and that share a fingerprint, have the
same numbers. -/
def FingerprintsTell (r : SearchRequest) (snapshots : List Weights) : Prop :=
  ∀ w ∈ snapshots, ∀ w' ∈ snapshots, ∀ u u', r.weights w = .ok u → r.weights w' = .ok u' →
    u.fingerprint = u'.fingerprint → u.SameNumbers u'

/-- A walk with the store that it depends on. -/
structure Session where
  store : WeightStore
  cursor : Option Cursor
  served : List SearchResponse

inductive Session.Event where
  | reload (candidate : Weights)
  /-- The store looks at its document. -/
  | poll (content : Option String)
  | page

/-- The store after an event, unchanged by weights out of bounds and documents that do not read. -/
def WeightStore.after (store : WeightStore) : Session.Event → WeightStore
  | .reload candidate => (store.reload candidate).toOption.getD store
  | .poll content => store.tick content
  | .page => store

/-- All snapshots that a store serves in the course of some events. -/
def WeightStore.snapshots (store : WeightStore) : List Session.Event → List Weights
  | [] => [store.snapshot]
  | event :: events => store.snapshot :: (store.after event).snapshots events

namespace Session

variable (e : Engine) (r : SearchRequest)

/-- The request for the page after the last, if that had a cursor. -/
def ask (s : Session) : Option (Traced (Except SearchError SearchResponse)) :=
  s.cursor.map fun c => e.search s.store.snapshot (r.resume c)

/-- A page that is served is the last from then on; a request that fails may be made again. -/
def step (s : Session) (event : Event) : Session :=
  match event, s.ask e r with
  | .page, some ⟨.ok p, _⟩ => { s with cursor := p.next, served := s.served ++ [p] }
  | _, _ => { s with store := s.store.after event }

def run (s : Session) (events : List Event) : Session := events.foldl (step e r) s

theorem step_store (s : Session) (event : Event) :
    (s.step e r event).store = s.store.after event := by
  unfold step
  split <;> rfl

theorem run_snapshot_mem (events : List Event) (s : Session) :
    (s.run e r events).store.snapshot ∈ s.store.snapshots events := by
  induction events generalizing s with
  | nil => simp [Session.run, WeightStore.snapshots]
  | cons event events ih =>
      have hmem := ih (s.step e r event)
      rw [step_store] at hmem
      exact List.mem_cons_of_mem _ hmem

/-- The pages of a walk are slices of a list of hits, and the cursor leads to what the next slice
begins with. -/
structure Inv (pool rest : List CombinedHit) (limit : Nat) (fingerprint : String) (s : Session) :
    Prop where
  served : ∀ (i : Nat) (p : SearchResponse), s.served[i]? = some p →
    p.ids.Perm (slice limit i (rest.map (·.id)))
  issued : ∀ c, s.cursor = some c → c.fingerprint = some fingerprint
  next : ∀ c, s.cursor = some c → pageAfter pool (some c) = rest.drop (s.served.length * limit)

section

variable {pool rest : List CombinedHit} {limit : Nat} {fingerprint : String} {s : Session}

theorem Inv.serve (hpos : 0 < limit) (hnodup : (pool.map (·.id)).Nodup)
    (hinv : s.Inv pool rest limit fingerprint) {c : Option Cursor}
    (hafter : pageAfter pool c = rest.drop (s.served.length * limit)) {p : SearchResponse}
    (hids : p.ids.Perm (((pageAfter pool c).take limit).map (·.id)))
    (hnext : p.next = (Page.cut pool c limit fingerprint).next) :
    Inv pool rest limit fingerprint { s with cursor := p.next, served := s.served ++ [p] } := by
  constructor
  · intro i q hq
    rcases Nat.lt_trichotomy i s.served.length with hlt | rfl | hgt
    · rw [List.getElem?_append_left hlt] at hq
      exact hinv.served i q hq
    · obtain rfl : p = q := by simpa using hq
      rwa [hafter, List.map_take, List.map_drop] at hids
    · have hlength : (s.served ++ [p]).length ≤ i := by
        rw [List.length_append, List.length_singleton]
        exact hgt
      rw [List.getElem?_eq_none hlength] at hq
      cases hq
  · intro next hsome
    obtain ⟨-, hnone⟩ | ⟨-, h, -, -, -, -, hcut⟩ := Page.cut_next_cases pool fingerprint hpos c
    · cases hsome.symm.trans (hnext.trans hnone)
    · cases hsome.symm.trans (hnext.trans hcut)
      rfl
  · intro next hsome
    rw [Page.pageAfter_next hpos hnodup (hnext.symm.trans hsome), hafter, List.drop_drop,
      List.length_append]
    simp [Nat.succ_mul]

end

section

variable {e r} {w : Weights} {plan : Plan} {found : List StrategyResult} {rest : List CombinedHit}

/-- What a request of the walk is answered with, if the first page was cut under the plan. -/
theorem ask_cases (hplan : Plan.ofRequest e.indexBase w r = .ok plan)
    (hfound : e.retrieve r plan = .ok found) {s : Session}
    (hinv : s.Inv (plan.pool found) rest r.pageSize plan.weights.fingerprint)
    (htell : ∀ u, r.weights s.store.snapshot = .ok u → plan.weights.fingerprint = u.fingerprint →
      plan.weights.SameNumbers u) {answer : Traced (Except SearchError SearchResponse)}
    (hask : s.ask e r = some answer) :
    (∃ cause, answer = pure (.error (.invalid cause))) ∨
      ∃ p, answer.value = .ok p ∧ p.ids.Perm (slice r.pageSize s.served.length (rest.map (·.id))) ∧
        ({ s with cursor := p.next, served := s.served ++ [p] } : Session).Inv
          (plan.pool found) rest r.pageSize plan.weights.fingerprint := by
  obtain ⟨c, hcursor, rfl⟩ := Option.map_eq_some_iff.mp hask
  rcases e.search_resume_cases hplan hfound htell (hinv.issued c hcursor) with
    hrefused | ⟨p, hserved, hids, hnext⟩
  · exact .inl hrefused
  · refine .inr ⟨p, hserved, ?_,
      hinv.serve r.pageSize_pos Engine.nodup_pool (hinv.next c hcursor) hids hnext⟩
    rwa [hinv.next c hcursor, List.map_take, List.map_drop] at hids

theorem Inv.step (hplan : Plan.ofRequest e.indexBase w r = .ok plan)
    (hfound : e.retrieve r plan = .ok found) {s : Session}
    (hinv : s.Inv (plan.pool found) rest r.pageSize plan.weights.fingerprint)
    (htell : ∀ u, r.weights s.store.snapshot = .ok u → plan.weights.fingerprint = u.fingerprint →
      plan.weights.SameNumbers u) (event : Event) :
    (s.step e r event).Inv (plan.pool found) rest r.pageSize plan.weights.fingerprint := by
  unfold Session.step
  split
  · rename_i p calls hask
    rcases ask_cases hplan hfound hinv htell hask with ⟨cause, hrefused⟩ | ⟨q, hserved, -, hinv'⟩
    · cases hrefused
    · obtain rfl : p = q := Except.ok.inj hserved
      exact hinv'
  · exact ⟨hinv.served, hinv.issued, hinv.next⟩

theorem Inv.run (hplan : Plan.ofRequest e.indexBase w r = .ok plan)
    (hfound : e.retrieve r plan = .ok found) (events : List Event) {s : Session}
    (hinv : s.Inv (plan.pool found) rest r.pageSize plan.weights.fingerprint)
    (htell : ∀ w' ∈ s.store.snapshots events, ∀ u, r.weights w' = .ok u →
      plan.weights.fingerprint = u.fingerprint → plan.weights.SameNumbers u) :
    (s.run e r events).Inv (plan.pool found) rest r.pageSize plan.weights.fingerprint := by
  induction events generalizing s with
  | nil => exact hinv
  | cons event events ih =>
      have hnow := htell s.store.snapshot (by simp [WeightStore.snapshots])
      refine ih (hinv.step hplan hfound hnow event) fun w' hw' => htell w' ?_
      rw [step_store] at hw'
      exact List.mem_cons_of_mem _ hw'

/-- Whatever happens to the weights between the pages of a walk, its pages are slices of the ranking
that the first page was cut from, one after another, and a request that is not answered with the
next one is refused with nobody called. -/
theorem pages_keep_ranking (store : WeightStore) (events : List Event) {first : SearchResponse}
    (hfirst : (e.search store.snapshot r).value = .ok first)
    (htell : FingerprintsTell r (store.snapshots events)) :
    ∃ pool cursor, e.ranking store.snapshot r = .ok pool ∧ r.cursor = .ok cursor ∧
      let order := (pageAfter pool cursor).map (·.id)
      let s := Session.run e r ⟨store, first.next, [first]⟩ events
      (∀ (i : Nat) (p : SearchResponse), s.served[i]? = some p →
        p.ids.Perm (slice r.pageSize i order)) ∧
        (s.served.flatMap (·.ids)).Nodup ∧
        ∀ answer, s.ask e r = some answer →
          (∃ cause, answer.value = .error (.invalid cause) ∧ answer.calls = []) ∨
            ∃ p, answer.value = .ok p ∧ p.ids.Perm (slice r.pageSize s.served.length order) := by
  obtain ⟨plan, found, hplan, hfound, rfl⟩ := e.search_eq_ok_iff.mp hfirst
  obtain ⟨-, -, -, hcursor, hweights, -⟩ := Plan.ofRequest_eq_ok_iff.mp hplan
  have htellPlan : ∀ w' ∈ store.snapshots events, ∀ u, r.weights w' = .ok u →
      plan.weights.fingerprint = u.fingerprint → plan.weights.SameNumbers u :=
    fun w' hw' u hu => htell store.snapshot (by cases events <;> simp [WeightStore.snapshots])
      w' hw' _ u hweights hu
  -- The first page is the one that is next in a session without pages.
  have hstart : Inv (plan.pool found) (pageAfter (plan.pool found) plan.cursor) r.pageSize
      plan.weights.fingerprint
      ⟨store, (e.page r plan found).next, [e.page r plan found]⟩ :=
    Inv.serve (s := ⟨store, none, []⟩) r.pageSize_pos Engine.nodup_pool ⟨by simp, by simp, by simp⟩
      (by simp) e.page_ids_perm rfl
  have hinv := hstart.run hplan hfound events htellPlan
  refine ⟨plan.pool found, plan.cursor, e.ranking_eq_ok hplan hfound, hcursor, hinv.served, ?_, ?_⟩
  · have horder : ((pageAfter (plan.pool found) plan.cursor).map (·.id)).Nodup :=
      Engine.nodup_pool.sublist ((pageAfter_suffix (plan.pool found) plan.cursor).sublist.map _)
    exact (flatMap_slices_perm hinv.served).nodup_iff.mpr (horder.sublist (List.take_sublist _ _))
  · intro answer hask
    have hnow := htellPlan _ (run_snapshot_mem e r events
      ⟨store, (e.page r plan found).next, [e.page r plan found]⟩)
    rcases ask_cases hplan hfound hinv hnow hask with ⟨cause, rfl⟩ | ⟨p, hserved, hids, -⟩
    · exact .inl ⟨cause, rfl, rfl⟩
    · exact .inr ⟨p, hserved, hids⟩

end

def overriding : SearchRequest :=
  { Walk.inPairs with customWeights := some ⟨none, some ⟨none, some 3, none⟩, none, none⟩ }

def keywordsAt (weight : Float) : Weights := { Weights.default with strategies := ⟨1, weight, 1⟩ }

def overridingPlan : Plan := ⟨"resources_en", ⟨none, [], [], []⟩, none, none, keywordsAt 3⟩

theorem overriding_weights (weight : Float) :
    overriding.weights (keywordsAt weight) = .ok (keywordsAt 3) := by
  have hlayered :
      (requestOverride overriding.flatWeights overriding.customWeights).apply (keywordsAt weight)
        = keywordsAt 3 := rfl
  have hvalid : (keywordsAt 3).isValid = true := by decide +kernel
  rw [SearchRequest.weights, Weights.forRequest]
  simp only [hlayered, hvalid]
  rfl

/-- A reload that the weights of the request hide. -/
theorem pages_keep_ranking_of_hidden_reload : ∃ first,
    ((Engine.ofHits Walk.threeHits).search (keywordsAt 1) overriding).value = .ok first ∧
      ((run (.ofHits Walk.threeHits) overriding ⟨.fixed (keywordsAt 1), first.next, [first]⟩
        [.reload (keywordsAt 5), .page]).served.flatMap (·.ids)).Nodup := by
  have hplan : Plan.ofRequest "resources" (keywordsAt 1) overriding = .ok overridingPlan :=
    Plan.ofRequest_eq_ok_iff.mpr ⟨rfl, rfl, ⟨none, rfl, rfl⟩, rfl, overriding_weights 1, rfl⟩
  have hfound : (Engine.ofHits Walk.threeHits).retrieve overriding overridingPlan
      = .ok [Walk.threeResult] := by
    rfl
  have hfirst := (Engine.ofHits Walk.threeHits).search_eq_ok_iff.mpr
    ⟨overridingPlan, _, hplan, hfound, rfl⟩
  have hsnapshots : (WeightStore.fixed (keywordsAt 1)).snapshots [.reload (keywordsAt 5), .page]
      = [1, 5, 5].map keywordsAt := by
    have hvalid : (keywordsAt 5).isValid = true := by decide +kernel
    simp [WeightStore.snapshots, WeightStore.after, WeightStore.reload, WeightStore.fixed, hvalid,
      Except.toOption]
  have htell : FingerprintsTell overriding
      ((WeightStore.fixed (keywordsAt 1)).snapshots [.reload (keywordsAt 5), .page]) := by
    rw [hsnapshots]
    intro w hw w' hw' u u' hu hu' _
    obtain ⟨x, -, rfl⟩ := List.mem_map.mp hw
    obtain ⟨x', -, rfl⟩ := List.mem_map.mp hw'
    cases hu.symm.trans (overriding_weights x)
    cases hu'.symm.trans (overriding_weights x')
    exact fun _ => rfl
  obtain ⟨-, -, -, -, -, honce, -⟩ := pages_keep_ranking (.fixed (keywordsAt 1)) _ hfirst htell
  exact ⟨_, hfirst, honce⟩

end Session

end HybridSearch
