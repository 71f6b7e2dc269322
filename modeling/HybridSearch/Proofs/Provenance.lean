import HybridSearch.Proofs.Fusion
import HybridSearch.Proofs.SuggestPages

/-!
# Where scores come from

Fusion tells strategies apart by their names, so two clauses of one name would be taken for one. The
clauses of the main search are named for strategies, each of which has one place there, and those of
a suggestion for the queries of a context, of which no two come from the same source. So each clause
that found a document is among the sources of its score.
-/

namespace HybridSearch

/-! ### Strategies of different names -/

/-- What a result has to say for a document, by its first hit for it. -/
def StrategyResult.credit? (r : StrategyResult) (id : String) : Option Contribution :=
  (r.hits.find? (·.id = id)).map fun h => ⟨r.strategy, h.score, r.weight⟩

theorem mem_allHits {results : List StrategyResult} {f : StrategyResult × Hit}
    (hmem : f ∈ allHits results) : f.1 ∈ results := by
  obtain ⟨r, hr, hf⟩ := List.mem_flatMap.mp hmem
  obtain ⟨h, -, rfl⟩ := List.mem_map.mp hf
  exact hr

theorem retrieved_allHits {results : List StrategyResult}
    (hnames : (results.map (·.strategy)).Nodup) (id : String) :
    retrieved ((allHits results).filter (·.2.id = id)) = results.filterMap (·.credit? id) := by
  induction results with
  | nil => rfl
  | cons r results ih =>
      rw [List.map_cons, List.nodup_cons] at hnames
      have hsplit : (allHits (r :: results)).filter (·.2.id = id)
          = (r.hits.filter (·.id = id)).map (r, ·) ++ (allHits results).filter (·.2.id = id) := by
        rw [allHits, List.flatMap_cons, List.filter_append, List.filter_map]
        rfl
      have hother : ∀ f ∈ (allHits results).filter (·.2.id = id), f.1.strategy ≠ r.strategy := by
        intro f hf hsame
        apply hnames.1
        rw [← hsame]
        exact List.mem_map_of_mem (mem_allHits (List.mem_of_mem_filter hf))
      rw [hsplit, List.filterMap_cons, StrategyResult.credit?, ← List.head?_filter]
      cases r.hits.filter (·.id = id) with
      | nil => exact ih hnames.2
      | cons h more =>
          -- The later hits of this result go, and all hits of the others stay.
          have hmore : (more.map (r, ·)).filter (·.1.strategy ≠ r.strategy) = [] := by
            rw [List.filter_eq_nil_iff]
            intro f hf
            obtain ⟨h', -, rfl⟩ := List.mem_map.mp hf
            simp
          have hkeep : ((allHits results).filter (·.2.id = id)).filter
              (·.1.strategy ≠ r.strategy) = (allHits results).filter (·.2.id = id) := by
            rw [List.filter_eq_self]
            intro f hf
            exact decide_eq_true (hother f hf)
          rw [List.map_cons, List.cons_append, retrieved_cons, List.filter_append, hmore,
            List.nil_append, hkeep, ih hnames.2]
          rfl

theorem length_proximity_le (geo : Option GeoScorer) (source : Json) :
    (proximity geo source).length ≤ 1 := by
  unfold proximity
  cases geo with
  | none => simp
  | some g =>
      simp only
      split_ifs
      · cases g.decay? source <;> simp
      · simp

theorem strategy_of_mem_proximity {geo : Option GeoScorer} {source : Json} {c : Contribution}
    (hmem : c ∈ proximity geo source) : c.strategy = Strategy.geospatial.name := by
  unfold proximity at hmem
  cases geo with
  | none => cases hmem
  | some g =>
      simp only at hmem
      split_ifs at hmem
      · obtain ⟨d, -, rfl⟩ := List.mem_map.mp hmem
        rfl
      · cases hmem

theorem contributions_of_mem_combine {results : List StrategyResult}
    (hnames : (results.map (·.strategy)).Nodup) {geo : Option GeoScorer} {hit : CombinedHit}
    (hmem : hit ∈ combine results geo) :
    hit.contributions = results.filterMap (·.credit? hit.id) ++ proximity geo hit.source := by
  obtain ⟨id, -, rfl⟩ := List.mem_map.mp ((combine_perm results geo).mem_iff.mp hmem)
  rw [fuse_id, ← retrieved_allHits hnames]
  rfl

/-! ### Clauses of different names -/

namespace Batch

/-- Whether clauses have names of their own and, whatever is answered to them, every document found
is in the pool and has for sources the clauses that found it, and perhaps its proximity. -/
structure Credits (backend : Backend) (index : String) (clauses : List Clause)
    (pool : List StrategyResult → List CombinedHit) : Prop where
  names : (Strategy.geospatial.name :: clauses.map (·.strategy)).Nodup
  contributions : ∀ results, (execute backend index clauses).value = .ok results →
    ∃ answers, (clauses ≠ [] → backend index (clauses.map (·.body)) = .ok answers) ∧
      (∀ r ∈ clauses.zipWith label answers, ∀ h ∈ r.hits, h.id ∈ (pool results).map (·.id)) ∧
      ∀ hit ∈ pool results, ∃ near, near.length ≤ 1 ∧
        (∀ c ∈ near, c.strategy = Strategy.geospatial.name) ∧
        hit.contributions
          = (clauses.zipWith label answers).filterMap (·.credit? hit.id) ++ near

variable {backend : Backend} {index : String} {clauses : List Clause}
  {results : List StrategyResult}

theorem strategies_zipWith_label_sublist (clauses : List Clause) (answers : List Answer) :
    ((clauses.zipWith label answers).map (·.strategy)).Sublist (clauses.map (·.strategy)) := by
  induction clauses generalizing answers with
  | nil => exact List.nil_sublist _
  | cons clause clauses ih =>
      cases answers with
      | nil => exact List.nil_sublist _
      | cons answer answers => exact (ih answers).cons_cons clause.strategy

theorem credits_of_nodup (hnames : (Strategy.geospatial.name :: clauses.map (·.strategy)).Nodup)
    (geo : Option GeoScorer) : Credits backend index clauses (combine · geo) := by
  refine ⟨hnames, ?_⟩
  intro results hresults
  obtain ⟨answers, hanswers, rfl⟩ := execute_eq_ok hresults
  refine ⟨answers, hanswers, ?_, ?_⟩
  · intro r hr h hh
    exact (mem_ids_combine _ _).mpr ⟨r, hr, h, hh, rfl⟩
  · intro hit hmem
    have hlabels := strategies_zipWith_label_sublist clauses answers
    have hnodup := (List.nodup_cons.mp hnames).2.sublist hlabels
    refine ⟨proximity geo hit.source, length_proximity_le geo _, ?_,
      contributions_of_mem_combine hnodup hmem⟩
    intro c hc
    exact strategy_of_mem_proximity hc

end Batch

/-- The strategies that have clauses of their own, in the order in which they are sent. -/
def Strategy.retrieving : List Strategy :=
  [.semanticService, .semanticTaxonomy, .semanticOrganization, .keywordTyped, .keywordNouns,
    .keywordStemmedNouns, .intentDriven, .browse]

namespace ClauseInputs

variable (i : ClauseInputs) (w : Weights)

theorem semantic_sublist : ((i.semantic w).map (·.strategy)).Sublist
    [.semanticService, .semanticTaxonomy, .semanticOrganization] := by
  unfold semantic
  split
  · split_ifs
    · exact List.nil_sublist _
    · exact List.Sublist.refl _
  · exact List.nil_sublist _

theorem variant_sublist (strategy : Strategy) (form : Option String) (weight : Float) :
    ((variant strategy form weight).map (·.strategy)).Sublist [strategy] := by
  unfold variant
  split
  · split_ifs
    · exact List.nil_sublist _
    · exact List.Sublist.refl _
  · exact List.nil_sublist _

theorem keyword_sublist : ((i.keyword w).map (·.strategy)).Sublist
    [.keywordTyped, .keywordNouns, .keywordStemmedNouns] := by
  simp only [keyword]
  split_ifs
  · exact List.singleton_sublist.mpr List.mem_cons_self
  · rw [List.map_cons, List.map_append]
    exact ((variant_sublist _ _ _).append (variant_sublist _ _ _)).cons_cons _

theorem intent_sublist : ((i.intent w).map (·.strategy)).Sublist [.intentDriven] := by
  unfold intent
  split
  · split_ifs
    · exact List.nil_sublist _
    · exact List.Sublist.refl _
  · exact List.nil_sublist _

theorem retrievals_sublist :
    ((i.retrievals w).map (·.strategy)).Sublist Strategy.retrieving := by
  have hcandidates : ((i.candidates w).map (·.strategy)).Sublist
      ([.semanticService, .semanticTaxonomy, .semanticOrganization]
        ++ [.keywordTyped, .keywordNouns, .keywordStemmedNouns] ++ [.intentDriven]) := by
    rw [candidates, List.map_append, List.map_append]
    exact ((i.semantic_sublist w).append (i.keyword_sublist w)).append (i.intent_sublist w)
  calc ((i.retrievals w).map (·.strategy)).Sublist ((i.candidates w).map (·.strategy)) :=
        List.filter_sublist.map _
    List.Sublist _ _ := hcandidates
    List.Sublist _ Strategy.retrieving := by decide

theorem strategies_clauses (filters : List FilterQuery) : (i.clauses w filters).map (·.strategy)
    = ((i.retrievals w).map (·.strategy)).map Strategy.name := by
  rw [clauses, List.map_map, List.map_map]
  rfl

end ClauseInputs

theorem Plan.names_clauses (plan : Plan) (poolSize : Nat) (query : Option SearchQuery)
    (signals : Signals) : (Strategy.geospatial.name ::
      (plan.clauses poolSize query signals).map (·.strategy)).Nodup := by
  have hnodup : (Strategy.geospatial.name :: Strategy.retrieving.map Strategy.name).Nodup := by
    decide
  refine hnodup.sublist (List.Sublist.cons_cons _ ?_)
  cases query with
  | none => exact List.singleton_sublist.mpr (List.mem_map_of_mem (a := Strategy.browse) (by decide))
  | some q =>
      rw [clauses, ClauseInputs.strategies_clauses]
      exact (ClauseInputs.retrievals_sublist _ _).map _

namespace Suggester

open Query

variable (s : Suggester) (disableIntent : Bool) (input : String)

/-- The input that is searched as typed for want of anything better is the only query then. -/
theorem labels_context_v3 :
    ((s.context .v3 disableIntent input).processed.map ProcessedQuery.label).Sublist
      [(.user, "original"), (.user, "stemmed"), (.synonym, "synonyms"), (.intent, "classifier")] := by
  simp only [context]
  split_ifs with hempty
  · rw [Context.append, List.isEmpty_iff.mp hempty]
    exact List.singleton_sublist.mpr List.mem_cons_self
  · exact labels_enrich_v3 s.sources input disableIntent

theorem strategies_dualClauses (plan : SuggestPlan) (c : Context) :
    (dualClauses plan c).map (·.strategy) = (c.processed.map ProcessedQuery.label).map
      fun (type, source) => s!"{type.name}:{source}" := by
  rw [dualClauses, List.map_map, List.map_map]
  rfl

theorem names_clauses_v3 (plan : SuggestPlan) : (Strategy.geospatial.name ::
    (clauses plan (s.context .v3 disableIntent input)).map (·.strategy)).Nodup := by
  rw [clauses, if_pos (s.context_has_dualQuery disableIntent input), strategies_dualClauses]
  have hlabels := (s.labels_context_v3 disableIntent input).map
    fun (type, source) => s!"{type.name}:{source}"
  exact List.Nodup.sublist (hlabels.cons_cons _) (by decide)

end Suggester

/-- In the main search and in suggestions that keep their sources apart, every clause that found a
document is credited for it once, with its own weight and the first score that it gave. -/
theorem clauses_credited :
    (∀ (e : Engine) (r : SearchRequest) (plan : Plan),
      Batch.Credits e.backend plan.index (e.clauses r plan) plan.pool) ∧
    ∀ (s : Suggester) (r : SuggestRequest) (plan : SuggestPlan),
      Batch.Credits s.backend plan.index
        (Suggester.clauses plan (s.context .v3 r.disableIntent plan.input)) (combine · none) := by
  constructor
  · intro e r plan
    exact Batch.credits_of_nodup (plan.names_clauses _ _ _) _
  · intro s r plan
    exact Batch.credits_of_nodup (s.names_clauses_v3 r.disableIntent plan.input plan) none

def rentPlan : SuggestPlan := ⟨"help with rent", 1, "taxonomy_en"⟩

/-- Whatever is asked, the same document is found, and found twice. -/
def rentSuggester : Suggester where
  sources := Query.rentSources
  backend := fun _ bodies => .ok (bodies.map fun _ =>
    ⟨0, 2, false, [⟨"BH-3800", .ofFloat 2, .null⟩, ⟨"BH-3800", .ofFloat 1, .null⟩], none⟩)
  indexBase := "taxonomy"

theorem clauses_credited_of_rent : ∃ results,
    (Batch.execute rentSuggester.backend "taxonomy_en"
      (Suggester.clauses rentPlan (rentSuggester.context .v3 false "help with rent"))).value
        = .ok results ∧
    "BH-3800" ∈ (combine results none).map (·.id) ∧
    ∀ hit ∈ combine results none, hit.id = "BH-3800" → ∃ near, hit.contributions =
      [⟨"user:original", .ofFloat 2, .ofFloat 1.0⟩, ⟨"user:stemmed", .ofFloat 2, .ofFloat 1.0⟩,
        ⟨"synonym:synonyms", .ofFloat 2, .ofFloat 0.6⟩,
        ⟨"intent:classifier", .ofFloat 2, .ofFloat 0.8⟩] ++ near := by
  have hqueries : (rentSuggester.context .v3 false "help with rent").processed =
      [⟨"help with rent", .user, "original"⟩, ⟨"rent", .user, "stemmed"⟩,
        ⟨"housing", .synonym, "synonyms"⟩, ⟨"rent", .intent, "classifier"⟩] := by
    decide +kernel
  have hclauses : Suggester.clauses rentPlan (rentSuggester.context .v3 false "help with rent")
      = Suggester.dualClauses rentPlan (rentSuggester.context .v3 false "help with rent") :=
    if_pos (rentSuggester.context_has_dualQuery false "help with rent")
  have hcredits := clauses_credited.2 rentSuggester
    ⟨some "help with rent", none, 1, "en", false⟩ rentPlan
  change Batch.Credits rentSuggester.backend "taxonomy_en" (Suggester.clauses rentPlan
    (rentSuggester.context .v3 false "help with rent")) _ at hcredits
  rw [hclauses, Suggester.dualClauses, hqueries] at hcredits ⊢
  obtain ⟨answers, hanswers, hfound, hsources⟩ := hcredits.contributions _ rfl
  obtain rfl := Except.ok.inj (hanswers (List.cons_ne_nil _ _))
  refine ⟨_, rfl, ?_, ?_⟩
  · exact hfound _ List.mem_cons_self _ List.mem_cons_self
  · intro hit hmem hid
    obtain ⟨near, -, -, hsum⟩ := hsources hit hmem
    refine ⟨near, ?_⟩
    rw [hsum, hid]
    rfl

end HybridSearch
