import HybridSearch.Proofs.Walk

/-!
# Helpers that bring nothing

A search asks three helpers besides the backend: one embeds the query, one classifies it and one
reranks the page. An answer that is of no use is passed over, so the search of an engine with such
helpers is the search of the engine without them, but for the classification that it reports.
-/

namespace HybridSearch

namespace Attempt

variable {α : Type} {limit : Nat} {attempt : Attempt α}

/-- A call that fails, or takes longer than its caller waits. -/
def IsLost (limit : Nat) (attempt : Attempt α) : Prop :=
  limit < attempt.delay ∨ ∃ reason, attempt.result = .error reason

theorem within_eq_none_iff : attempt.within limit = none ↔ attempt.IsLost limit := by
  unfold within IsLost
  by_cases hlate : limit < attempt.delay
  · simp [hlate]
  · cases attempt.result <;> simp [hlate, Except.toOption]

theorem within_eq_some_iff {a : α} :
    attempt.within limit = some a ↔ attempt.delay ≤ limit ∧ attempt.result = .ok a := by
  unfold within
  by_cases hlate : limit < attempt.delay
  · simp [hlate]
  · cases attempt.result <;> simp [hlate, Nat.not_lt.mp hlate, Except.toOption]

end Attempt

namespace Embedding

variable {limit : Nat} {attempt : Attempt (List Float)}

def IsWasted (limit : Nat) (attempt : Attempt (List Float)) : Prop :=
  attempt.IsLost limit ∨ attempt.result = .ok []

theorem ofAttempt_of_isWasted (hwasted : IsWasted limit attempt) :
    ofAttempt limit attempt = none := by
  unfold ofAttempt
  rcases hwasted with hlost | hempty
  · rw [Attempt.within_eq_none_iff.mpr hlost]
    rfl
  · rw [Attempt.within, hempty]
    split <;> rfl

end Embedding

namespace Rerank

variable {limit : Nat} {ids : List String} {attempt : Attempt (List RankedPassage)}

def IsWasted (limit : Nat) (ids : List String) (attempt : Attempt (List RankedPassage)) : Prop :=
  attempt.IsLost limit ∨ ∃ ranked, attempt.result = .ok ranked ∧ ∀ p ∈ ranked, p.id ∉ ids

theorem order_of_unknown (hnodup : ids.Nodup) {ranked : List RankedPassage}
    (hunknown : ∀ p ∈ ranked, p.id ∉ ids) : order ids ranked = ids := by
  have hnone : ranked.filter (fun p => ids.contains p.id) = [] := by
    rw [List.filter_eq_nil_iff]
    intro p hp
    simpa using hunknown p hp
  rw [order, hnone, List.mergeSort_nil]
  exact eraseDups_of_nodup hnodup

theorem orderBy_of_isWasted (hnodup : ids.Nodup) (hwasted : IsWasted limit ids attempt) :
    orderBy limit ids attempt = ids := by
  unfold orderBy
  split
  · rename_i ranked hranked
    rcases hwasted with hlost | ⟨answered, hanswered, hunknown⟩
    · rw [Attempt.within_eq_none_iff.mpr hlost] at hranked
      cases hranked
    · rw [Attempt.within, hanswered] at hranked
      split at hranked
      · cases hranked
      · cases hranked
        exact order_of_unknown hnodup hunknown
  · rfl

theorem run_of_isWasted {reranker : Reranker} {query : String} {passages : List Passage}
    (hnodup : (passages.map (·.id)).Nodup)
    (hwasted : IsWasted limit (passages.map (·.id)) (reranker query passages passages.length)) :
    (run reranker limit query passages).value = passages.map (·.id) := by
  unfold run
  split
  · rfl
  · exact orderBy_of_isWasted hnodup hwasted

theorem mem_calls_run (reranker : Reranker) (limit : Nat) (query : String) {passages : List Passage}
    (hsome : passages ≠ []) :
    Call.rerank query passages passages.length ∈ (run reranker limit query passages).calls := by
  unfold run
  rw [if_neg (by simpa using hsome)]
  exact List.mem_singleton.mpr rfl

end Rerank

/-- Of all sources the main search reads the stoplist alone. -/
theorem Query.analyze_congr {s s' : Sources} (hstoplist : s.stoplist = s'.stoplist)
    (query : String) : analyze s query = analyze s' query := by
  have hdetect (c : Context) : Stage.step s c .codeDetection = Stage.step s' c .codeDetection := rfl
  have hstem (c : Context) : Stage.step s c .stemming = Stage.step s' c .stemming := by
    change (if Stage.stemming.applies s c then addStem s.stoplist c else c)
      = if Stage.stemming.applies s c then addStem s'.stoplist c else c
    rw [hstoplist]
  simp only [analyze, runStages, List.foldl_cons, List.foldl_nil, hdetect, hstem]

theorem SearchQuery.ofText_congr {s s' : Query.Sources} (hstoplist : s.stoplist = s'.stoplist) :
    ofText s = ofText s' := by
  funext text
  rw [ofText, ofText, Query.analyze_congr hstoplist]

theorem Plan.clauses_congr (plan : Plan) (poolSize : Nat) (query : Option SearchQuery)
    {signals signals' : Signals} (hembedding : signals.embedding = signals'.embedding)
    (hcodes : signals.codes = signals'.codes) :
    plan.clauses poolSize query signals = plan.clauses poolSize query signals' := by
  cases query with
  | none => rfl
  | some q => simp only [clauses, hembedding, hcodes]

inductive Helper where
  | embedder
  | classifier
  | reranker
deriving DecidableEq

def Call.helper? : Call → Option Helper
  | embed _ => some .embedder
  | classify _ => some .classifier
  | rerank _ _ _ => some .reranker
  | search _ _ => none

/-- Whether a call is made to one of some helpers. -/
def Call.concerns (out : Helper → Bool) (call : Call) : Bool := call.helper?.any out

namespace Engine

/-- The engine without some of its helpers. -/
def without (e : Engine) (out : Helper → Bool) : Engine :=
  { e with
    sources := { e.sources with
      classifier := if out .classifier then none else e.sources.classifier }
    embedder := if out .embedder then none else e.embedder
    reranker := if out .reranker then none else e.reranker }

/-- Whether a helper's answer to a call has nothing that a search could use. -/
def Wastes (e : Engine) : Call → Prop
  | .embed text => ∀ embedder, e.embedder = some embedder →
      Embedding.IsWasted e.embedPatience (embedder text)
  | .classify query => ∀ classifier, e.sources.classifier = some classifier →
      (classifier query).IsLost e.sources.patience
  | .rerank query passages wanted => ∀ reranker, e.reranker = some reranker →
      Rerank.IsWasted e.rerankPatience (passages.map (·.id)) (reranker query passages wanted)
  | .search _ _ => False

def asksIntent (e : Engine) (r : SearchRequest) : Bool :=
  e.sources.classifier.isSome && (e.query r).any (·.wantsIntent r)

section

variable {e : Engine} {out : Helper → Bool} {text : Option String}

theorem embedding_without
    (hwastes : ∀ call ∈ (Embedding.ask e.embedPatience e.embedder text).calls,
      call.concerns out → e.Wastes call) :
    (Embedding.ask e.embedPatience (e.without out).embedder text).value
      = (Embedding.ask e.embedPatience e.embedder text).value := by
  by_cases hout : out .embedder
  · simp only [without, if_pos hout]
    cases hembedder : e.embedder with
    | none => rfl
    | some embedder =>
        cases text with
        | none => rfl
        | some text =>
            rw [hembedder] at hwastes
            have hwasted := hwastes (.embed text) (List.mem_singleton.mpr rfl) hout
            exact (Embedding.ofAttempt_of_isWasted (hwasted embedder hembedder)).symm
  · simp only [without, if_neg hout]

theorem intent_without
    (hwastes : ∀ call ∈ (Intent.ask e.sources.patience e.sources.classifier text).calls,
      call.concerns out → e.Wastes call) :
    (Intent.ask e.sources.patience e.sources.classifier text).value
      = if out .classifier && (e.sources.classifier.isSome && text.isSome)
        then some ⟨.fallback, false⟩
        else (Intent.ask e.sources.patience (e.without out).sources.classifier text).value := by
  by_cases hout : out .classifier
  · simp only [without, if_pos hout]
    cases hclassifier : e.sources.classifier with
    | none => simp
    | some classifier =>
        cases text with
        | none => simp; rfl
        | some text =>
            rw [hclassifier] at hwastes
            have hwasted := hwastes (.classify text) (List.mem_singleton.mpr rfl) hout
            change some (Intent.ofAttempt e.sources.patience (classifier text)) = _
            rw [Intent.ofAttempt, Attempt.within_eq_none_iff.mpr (hwasted classifier hclassifier)]
            simp [hout]
  · simp only [without, Bool.eq_false_iff.mpr hout]
    rfl

theorem rerank_without {hits : List CombinedHit} (hnodup : (hits.map (·.id)).Nodup)
    (hwastes : ∀ call ∈ (Page.rerank e.rerankPatience hits e.reranker text).calls,
      call.concerns out → e.Wastes call) :
    (Page.rerank e.rerankPatience hits (e.without out).reranker text).value
      = (Page.rerank e.rerankPatience hits e.reranker text).value := by
  by_cases hout : out .reranker
  · simp only [without, if_pos hout]
    cases hreranker : e.reranker with
    | none => rfl
    | some reranker =>
        cases text with
        | none => rfl
        | some text =>
            rw [hreranker] at hwastes
            change hits = _
            by_cases hshort : hits.length ≤ 1
            · simp only [Page.rerank, if_pos hshort, Traced.value_pure]
            · have hids : (hits.map Page.passage).map (·.id) = hits.map (·.id) := by
                simp [Page.passage]
              have hsome : hits.map Page.passage ≠ [] := by
                rintro hnone
                simp [List.map_eq_nil_iff.mp hnone] at hshort
              rw [Page.rerank, if_neg hshort, Traced.calls_map] at hwastes
              have hcall := Rerank.mem_calls_run reranker e.rerankPatience text hsome
              have hwasted := hwastes _ hcall hout reranker hreranker
              rw [Page.rerank, if_neg hshort, Traced.value_map,
                Rerank.run_of_isWasted (hids ▸ hnodup) hwasted, hids]
              exact (Page.arrange_ids hnodup).symm
  · simp only [without, if_neg hout]

end

section

variable {e : Engine} {out : Helper → Bool} {r : SearchRequest} {plan : Plan}
  {found : List StrategyResult}

theorem query_without (r : SearchRequest) : (e.without out).query r = e.query r := by
  have hofText : SearchQuery.ofText (e.without out).sources = SearchQuery.ofText e.sources :=
    SearchQuery.ofText_congr rfl
  rw [query, query, hofText]

theorem signals_without
    (hwastes : ∀ call ∈ (e.signals r (e.query r)).calls, call.concerns out → e.Wastes call) :
    ((e.without out).signals r (e.query r)).value.embedding
        = (e.signals r (e.query r)).value.embedding ∧
      (e.signals r (e.query r)).value.intent
        = if out .classifier && e.asksIntent r then some ⟨.fallback, false⟩
          else ((e.without out).signals r (e.query r)).value.intent := by
  simp only [signals, Traced.calls_bind, Traced.calls_pure, List.append_nil, List.mem_append]
    at hwastes
  constructor
  · exact embedding_without fun call hcall => hwastes call (.inl hcall)
  · have hintent := intent_without fun call hcall => hwastes call (.inr hcall)
    rwa [Option.isSome_map, Option.isSome_filter] at hintent

/-- The fallback names no codes to search by, so the backend is sent what it is sent without it. -/
theorem clauses_without
    (hwastes : ∀ call ∈ (e.signals r (e.query r)).calls, call.concerns out → e.Wastes call) :
    (e.without out).clauses r plan = e.clauses r plan := by
  obtain ⟨hembedding, hintent⟩ := signals_without hwastes
  have hcodes : ((e.without out).signals r (e.query r)).value.codes
      = (e.signals r (e.query r)).value.codes := by
    rw [Signals.codes, Signals.codes, hintent]
    split
    · rename_i hasked
      have hnone : ((e.without out).signals r (e.query r)).value.intent = none := by
        change (Intent.ask _ (if out .classifier then none else _) _).value = none
        rw [if_pos (Bool.and_eq_true_iff.mp hasked).1]
        rfl
      rw [hnone]
      rfl
    · rfl
  rw [clauses, clauses, query_without]
  exact plan.clauses_congr e.poolSize (e.query r) hembedding hcodes

theorem page_without
    (hwastes : ∀ call ∈ (e.signals r (e.query r)).calls, call.concerns out → e.Wastes call)
    (hwastesRerank : ∀ call ∈ (Page.rerank e.rerankPatience (cutHits r plan found) e.reranker
      ((e.query r).map (·.text))).calls, call.concerns out → e.Wastes call) :
    e.page r plan found = if out .classifier && e.asksIntent r
      then { (e.without out).page r plan found with classification := some .fallback }
      else (e.without out).page r plan found := by
  obtain ⟨-, hintent⟩ := signals_without hwastes
  have hsame : e.page r plan found = { (e.without out).page r plan found with
      hits := (e.page r plan found).hits
      classification := (e.signals r (e.query r)).value.intent.map (·.classification) } := rfl
  have hclassification : ((e.without out).page r plan found).classification
      = ((e.without out).signals r (e.query r)).value.intent.map (·.classification) := by
    have hquery : (e.without out).query r = e.query r := query_without r
    rw [← hquery]
    rfl
  have hhits : (e.page r plan found).hits = ((e.without out).page r plan found).hits := by
    let terms (query : Option SearchQuery) : List String := query.elim [] (·.keywords.terms)
    change _ = (Page.rerank e.rerankPatience (cutHits r plan found) (e.without out).reranker
      (((e.without out).query r).map (·.text))).value.map
        (ResponseHit.ofHit r.excludeServiceArea (terms ((e.without out).query r)))
    rw [query_without, rerank_without nodup_cutHits hwastesRerank]
    rfl
  rw [hsame, hhits, hintent]
  split
  · rfl
  · rw [← hclassification]

/-- Without helpers whose answers to a search are of no use to it, the search ends the same, except
that a classifier that was asked in vain leaves the fallback in the response. -/
theorem search_without (w : Weights) (r : SearchRequest)
    (hwastes : ∀ call ∈ (e.search w r).calls, call.concerns out → e.Wastes call) :
    (e.search w r).value = ((e.without out).search w r).value.map fun p =>
      if out .classifier && e.asksIntent r then { p with classification := some .fallback }
      else p := by
  cases hplan : Plan.ofRequest e.indexBase w r with
  | error cause =>
      rw [e.search_of_invalid hplan, (e.without out).search_of_invalid hplan]
      rfl
  | ok plan =>
      have hcalls := e.search_calls_of_plan hplan
      have hsignals : ∀ call ∈ (e.signals r (e.query r)).calls,
          call.concerns out → e.Wastes call := by
        intro call hcall
        exact hwastes call (by simp [hcalls, hcall])
      have hretrieve : (e.without out).retrieve r plan = e.retrieve r plan := by
        rw [retrieve_eq, retrieve_eq, clauses_without hsignals]
        rfl
      rw [e.search_of_plan hplan, (e.without out).search_of_plan hplan, hretrieve]
      cases hfound : e.retrieve r plan with
      | error cause => rfl
      | ok found =>
          refine congrArg Except.ok (page_without hsignals ?_)
          intro call hcall
          exact hwastes call (by simp [hcalls, hfound, hcall])

end

/-- An engine whose embedder fails, whose classifier answers too late and whose reranker scores
nothing. -/
def failing (hits : List Hit) : Engine :=
  { ofHits hits with
    sources := ⟨⟨[]⟩, fun _ => [], some fun _ => ⟨.ok ⟨"shelter", 1, ["BH-1800"], false, []⟩, 6000⟩,
      5000⟩
    embedder := some fun _ => .atOnce (.error "down")
    reranker := some fun _ _ _ => .atOnce (.ok []) }

theorem failing_wastes (hits : List Hit) {call : Call} (hcall : call.concerns fun _ => true) :
    (failing hits).Wastes call := by
  cases call with
  | embed text =>
      rintro embedder ⟨⟩
      exact .inl (.inr ⟨_, rfl⟩)
  | classify query =>
      rintro classifier ⟨⟩
      exact .inl (show 5000 < 6000 by decide)
  | rerank query passages wanted =>
      rintro reranker ⟨⟩
      exact .inr ⟨[], rfl, by simp⟩
  | search index bodies => cases hcall

def shelterRequest : SearchRequest :=
  { SearchRequest.empty with query := some "emergency shelter for families tonight" }

/-- The plan of a request that has a query and nothing else. -/
def queryPlan : Plan := ⟨"resources_en", ⟨none, [], [], []⟩, none, none, .default⟩

theorem search_without_failing : ∃ p : SearchResponse,
    (((failing Walk.threeHits).without fun _ => true).search .default shelterRequest).value
        = .ok p ∧
      ((failing Walk.threeHits).search .default shelterRequest).value
        = .ok { p with classification := some .fallback } := by
  have hasked : (failing Walk.threeHits).asksIntent shelterRequest = true := by decide +kernel
  have hok : (((failing Walk.threeHits).without fun _ => true).search .default
      shelterRequest).value.toOption.isSome = true := by
    decide +kernel
  have hsame := (failing Walk.threeHits).search_without .default shelterRequest
    fun _ _ hcall => failing_wastes Walk.threeHits hcall
  cases hsearch : (((failing Walk.threeHits).without fun _ => true).search .default
      shelterRequest).value with
  | error cause =>
      rw [hsearch] at hok
      cases hok
  | ok p =>
      refine ⟨p, rfl, ?_⟩
      rw [hsame, hsearch]
      simp only [hasked]
      rfl

end Engine

end HybridSearch
