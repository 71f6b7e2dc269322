import HybridSearch.Proofs.Batch
import HybridSearch.Proofs.Bounds
import HybridSearch.Proofs.Double
import HybridSearch.Search

/-!
# Clauses of a request

A request with a query is sent as one clause for each strategy that has something to work with and
a weight above zero, one without a query as a single clause. Which strategies these are is said here
strategy by strategy, apart from the functions that gather the clauses. They leave a clause out when
its weight is at most zero, which is to say that it is not above zero, since the weights in bounds
are finite and the product of two finite numbers is a number.
-/

namespace HybridSearch

/-! ### The strategies that are sent -/

/-- The strategies that look for what a query says, in the order in which they are sent. -/
def Strategy.querying : List Strategy :=
  [.semanticService, .semanticTaxonomy, .semanticOrganization, .keywordTyped, .keywordNouns,
    .keywordStemmedNouns, .intentDriven]

def Weights.ofStrategy (w : Weights) : Strategy → Float
  | .semanticService => w.semantic.service * w.strategies.semanticSearch
  | .semanticTaxonomy => w.semantic.taxonomy * w.strategies.semanticSearch
  | .semanticOrganization => w.semantic.organization * w.strategies.semanticSearch
  | .keywordTyped => w.strategies.keywordSearch
  | .keywordNouns => w.variations.nouns
  | .keywordStemmedNouns => w.variations.stemmedNouns
  | .intentDriven => w.strategies.intentDriven
  | .browse => 1
  | .geospatial => w.geospatial.weight

/-- Whether there is something for a strategy to work with. -/
def ClauseInputs.isPresent (i : ClauseInputs) : Strategy → Bool
  | .semanticService | .semanticTaxonomy | .semanticOrganization => i.embedding.isSome && !i.isCode
  | .keywordTyped => true
  | .keywordNouns => i.keywords.nouns.any (!Text.isBlank ·) && !i.isCode
  | .keywordStemmedNouns => i.keywords.stemmedNouns.any (!Text.isBlank ·) && !i.isCode
  | .intentDriven => i.intentCodes.any (!·.isEmpty)
  | .browse | .geospatial => false

def ClauseInputs.enabled (i : ClauseInputs) (w : Weights) : List Strategy :=
  Strategy.querying.filter fun s => i.isPresent s && 0 < w.ofStrategy s

theorem Weights.isNaN_ofStrategy {w : Weights} (hvalid : w.isValid) (s : Strategy) :
    (w.ofStrategy s).isNaN = false := by
  have hfinite (f : WeightField) : (w.value f).isFinite := Weights.isFinite_value hvalid f
  cases s with
  | semanticService => exact isNaN_mul (hfinite .service) (hfinite .semanticSearch)
  | semanticTaxonomy => exact isNaN_mul (hfinite .taxonomy) (hfinite .semanticSearch)
  | semanticOrganization => exact isNaN_mul (hfinite .organization) (hfinite .semanticSearch)
  | keywordTyped => exact isNaN_of_isFinite (hfinite .keywordSearch)
  | keywordNouns => exact isNaN_of_isFinite (hfinite .nouns)
  | keywordStemmedNouns => exact isNaN_of_isFinite (hfinite .stemmedNouns)
  | intentDriven => exact isNaN_of_isFinite (hfinite .intentDriven)
  | browse => exact (by decide +kernel : (1 : Float).isNaN = false)
  | geospatial => exact isNaN_of_isFinite (hfinite .geoWeight)

namespace ClauseInputs

variable (i : ClauseInputs) (w : Weights)

/-- The strategies of a list that have something to work with, each with its weight. -/
def weighted (strategies : List Strategy) : List (Strategy × Float) :=
  (strategies.filter i.isPresent).map fun s => (s, w.ofStrategy s)

theorem semantic_weighted : (i.semantic w).map (fun r => (r.strategy, r.weight))
    = i.weighted w [.semanticService, .semanticTaxonomy, .semanticOrganization] := by
  unfold semantic weighted
  cases hembedding : i.embedding with
  | none => simp [isPresent, hembedding]
  | some vector =>
      cases hcode : i.isCode <;> simp [isPresent, hembedding, hcode, Weights.ofStrategy]

theorem variant_weighted (strategy : Strategy) (form : Option String) (weight : Float) :
    (variant strategy form weight).map (fun r => (r.strategy, r.weight))
      = if form.any (!Text.isBlank ·) then [(strategy, weight)] else [] := by
  unfold variant
  cases form with
  | none => rfl
  | some text => cases hblank : Text.isBlank text <;> simp [hblank]

theorem keyword_weighted : (i.keyword w).map (fun r => (r.strategy, r.weight))
    = i.weighted w [.keywordTyped, .keywordNouns, .keywordStemmedNouns] := by
  simp only [keyword, weighted]
  -- A code is searched for as typed, so its other forms do not matter.
  cases hcode : i.isCode with
  | true => simp [List.filter_cons, isPresent, hcode, Weights.ofStrategy]
  | false =>
      simp only [Bool.false_eq_true, ↓reduceIte, List.map_cons, List.map_append, variant_weighted,
        List.filter_cons, isPresent, hcode, Bool.not_false, Bool.and_true, Weights.ofStrategy]
      split_ifs <;> rfl

theorem intent_weighted : (i.intent w).map (fun r => (r.strategy, r.weight))
    = i.weighted w [.intentDriven] := by
  unfold intent weighted
  cases hcodes : i.intentCodes with
  | none => simp [isPresent, hcodes]
  | some codes => cases codes <;> simp [isPresent, hcodes, Weights.ofStrategy]

theorem candidates_weighted : (i.candidates w).map (fun r => (r.strategy, r.weight))
    = i.weighted w Strategy.querying := by
  rw [candidates, List.map_append, List.map_append, semantic_weighted, keyword_weighted,
    intent_weighted, weighted, weighted, weighted, ← List.map_append, ← List.map_append,
    ← List.filter_append, ← List.filter_append]
  rfl

theorem retrievals_weighted (hvalid : w.isValid) :
    (i.retrievals w).map (fun r => (r.strategy, r.weight))
      = (i.enabled w).map fun s => (s, w.ofStrategy s) := by
  have hsent (s : Strategy) : (!decide (w.ofStrategy s ≤ 0)) = decide (0 < w.ofStrategy s) := by
    rw [← decide_not, decide_eq_decide]
    exact (zero_lt_iff_not_le (Weights.isNaN_ofStrategy hvalid s)).symm
  calc (i.retrievals w).map (fun r => (r.strategy, r.weight))
      = ((i.candidates w).map fun r => (r.strategy, r.weight)).filter fun sent =>
          !decide (sent.2 ≤ 0) := by rw [List.filter_map, retrievals]; rfl
    _ = (i.weighted w Strategy.querying).filter fun sent => !decide (sent.2 ≤ 0) := by
        rw [candidates_weighted]
    _ = (i.enabled w).map fun s => (s, w.ofStrategy s) := by
        rw [weighted, enabled, List.filter_map, List.filter_filter]
        congr 1
        apply List.filter_congr
        intro s _
        rw [Function.comp_apply, hsent, Bool.and_comm]

end ClauseInputs

/-! ### What a clause asks for -/

/-- The filter in a body: what stands beside the scoring query, and scores nothing. -/
def filterOf? (body : Json) : Option Json :=
  ((body.get? "query").bind (·.get? "bool")).bind (·.get? "filter")

/-- Whether a clause asks for so many hits, all of them under the same filters. -/
structure Clause.Asks (c : Clause) (filters : List FilterQuery) (size : Nat) : Prop where
  size : c.body.get? "size" = some (.nat size)
  filter : filterOf? c.body = some (.arr (filters.map FilterQuery.json))

theorem bool_searchBody (query : ScoringQuery) (filters : List FilterQuery) (size : Nat) :
    ((searchBody query filters ⟨none, size⟩).get? "query").bind (·.get? "bool")
      = some (.object ([("must", .arr [query.json])] ++
          [("filter", .arr (filters.map FilterQuery.json))])) := by
  let bool : Json := .object ([("must", .arr [query.json])] ++
    [("filter", .arr (filters.map FilterQuery.json))])
  have hbody : searchBody query filters ⟨none, size⟩ = .object ([("size", .nat size)] ++
      [("track_total_hits", .bool true)] ++ [("query", .object ([] ++ [("bool", bool)]))]) := rfl
  rw [hbody, Json.get?_object_last, Option.bind_some]
  exact Json.get?_object_last "bool" _ _

theorem filterOf?_searchBody (query : ScoringQuery) (filters : List FilterQuery) (size : Nat) :
    filterOf? (searchBody query filters ⟨none, size⟩)
      = some (.arr (filters.map FilterQuery.json)) := by
  rw [filterOf?, bool_searchBody, Option.bind_some]
  exact Json.get?_object_last "filter" _ _

theorem Retrieval.asks_clause (r : Retrieval) (filters : List FilterQuery) (size : Nat) :
    (r.clause filters size).Asks filters size where
  size := get?_size_searchBody r.query filters size
  filter := filterOf?_searchBody r.query filters size

/-- A request without a query is sent as one clause that finds everything, and one with a query as
its enabled strategies in their order and with their weights. All clauses of a request ask for the
same number of hits under the same filters. -/
theorem clauses_enabled :
    (∀ (plan : Plan) (size : Nat) (signals : Signals), ∃ c, plan.clauses size none signals = [c] ∧
      c.strategy = Strategy.browse.name ∧ c.weight = .ofFloat 1 ∧
      c.Asks plan.filters.queries size) ∧
    ∀ (i : ClauseInputs) (w : Weights) (filters : List FilterQuery), w.isValid →
      (i.clauses w filters).map (fun c => (c.strategy, c.weight))
          = (i.enabled w).map (fun s => (s.name, .ofFloat (w.ofStrategy s))) ∧
        ∀ c ∈ i.clauses w filters, c.Asks filters i.size := by
  constructor
  · intro plan size signals
    exact ⟨_, rfl, rfl, rfl, Retrieval.asks_clause _ _ _⟩
  · intro i w filters hvalid
    constructor
    · calc (i.clauses w filters).map (fun c => (c.strategy, c.weight))
          = ((i.retrievals w).map fun r => (r.strategy, r.weight)).map
              fun sent => (sent.1.name, .ofFloat sent.2) := by
            rw [ClauseInputs.clauses, List.map_map, List.map_map]; rfl
        _ = (i.enabled w).map fun s => (s.name, .ofFloat (w.ofStrategy s)) := by
            rw [i.retrievals_weighted w hvalid, List.map_map]; rfl
    · intro c hc
      obtain ⟨r, -, rfl⟩ := List.mem_map.mp hc
      exact r.asks_clause filters i.size

/-- A query with every input but a stemmed form, which is blank. -/
def rentInputs : ClauseInputs :=
  ⟨⟨"help with rent", some "rent", some " "⟩, false, some [0.5], some ["BH-3800"], 10⟩

/-- Weights under which nothing is found by the vector of a taxonomy. -/
def unevenWeights : Weights :=
  { Weights.default with semantic := ⟨1, 0, 0.5⟩ }

def rentFilters : List FilterQuery := [.term Filters.codeField "BH-3800"]

theorem clauses_enabled_of_rent :
    (rentInputs.clauses unevenWeights rentFilters).map (fun c => (c.strategy, c.weight)) =
      [("semantic_service", .ofFloat 1), ("semantic_organization", .ofFloat 0.5),
        ("keyword_original", .ofFloat 1), ("keyword_nouns", .ofFloat 1),
        ("intent_driven", .ofFloat 1)] ∧
      ∀ c ∈ rentInputs.clauses unevenWeights rentFilters, c.Asks rentFilters 10 := by
  have hvalid : unevenWeights.isValid := by decide +kernel
  obtain ⟨hsent, hasks⟩ := clauses_enabled.2 rentInputs unevenWeights rentFilters hvalid
  refine ⟨?_, hasks⟩
  rw [hsent]
  decide +kernel

end HybridSearch
