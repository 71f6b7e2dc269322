import HybridSearch.Proofs.Outage
import HybridSearch.Proofs.Stage
import HybridSearch.Proofs.Text

/-!
# Searches that nobody is asked about

A search that browses, one that is by keywords alone and one for a code match what they are given
and no more. Whether there is somebody to embed or to classify a query makes no difference to them.
-/

namespace HybridSearch

open Query Text

/-- Whether a request has no query, or one to be matched as it stands. -/
def SearchRequest.IsExact (r : SearchRequest) : Prop :=
  (∀ q, r.query = some q → isBlank q) ∨ r.keywordOnly ∨ ∃ q, r.query = some q ∧ isCodeQuery q

theorem SearchRequest.text?_eq_some_iff {r : SearchRequest} {text : String} :
    r.text? = some text ↔ ∃ q, r.query = some q ∧ ¬ isBlank q ∧ trim q = text := by
  rw [text?, Option.filter_eq_some_iff, Option.map_eq_some_iff]
  constructor
  · rintro ⟨⟨q, hq, rfl⟩, hsome⟩
    refine ⟨q, hq, ?_, rfl⟩
    rwa [decide_eq_true_iff, Ne, trim_eq_empty_iff] at hsome
  · rintro ⟨q, hq, hsome, rfl⟩
    refine ⟨⟨q, hq, rfl⟩, ?_⟩
    rwa [decide_eq_true_iff, Ne, trim_eq_empty_iff]

theorem Query.analyze_isCode (s : Sources) (query : String) :
    (analyze s query).isCode = isCodeQuery query := by
  rw [analyze, runStages_cons, Stage.step_codeDetection, runStages_isCode s (by decide),
    detectCode_isCode, Context.ofQuery_query, isCodeQuery]

theorem SearchQuery.ofText_isCode (s : Sources) (text : String) :
    (ofText s text).isCode = (analyze s text).isCode := by
  rw [ofText]

theorem Embedding.ask_none (limit : Nat) (embedder : Option Embedder) :
    ask limit embedder none = pure none := by
  cases embedder <;> rfl

theorem Intent.ask_none (limit : Nat) (classifier : Option Classifier) :
    ask limit classifier none = pure none := by
  cases classifier <;> rfl

theorem Batch.helper?_of_mem_calls {backend : Backend} {index : String} {clauses : List Clause}
    {call : Call} (hcall : call ∈ (execute backend index clauses).calls) :
    call.helper? = none := by
  unfold execute at hcall
  split_ifs at hcall
  · cases hcall
  · rw [List.mem_singleton.mp hcall]
    rfl

theorem Page.helper?_of_mem_calls {patience : Nat} {hits : List CombinedHit}
    {reranker : Option Reranker} {query : Option String} {call : Call}
    (hcall : call ∈ (rerank patience hits reranker query).calls) :
    call.helper? = some .reranker := by
  unfold rerank at hcall
  split at hcall
  · split_ifs at hcall
    · cases hcall
    · rw [Traced.calls_map, Rerank.run] at hcall
      split_ifs at hcall
      · cases hcall
      · rw [List.mem_singleton.mp hcall]
        rfl
  · cases hcall

namespace Engine

/-- The engine with other helpers about the query. -/
def withHelpers (e : Engine) (embedder : Option Embedder) (embedPatience : Nat)
    (classifier : Option Classifier) (classifyPatience : Nat) : Engine :=
  { e with
    sources := e.sources.withClassifier classifier classifyPatience
    embedder := embedder
    embedPatience := embedPatience }

variable {e : Engine} {r : SearchRequest}

theorem not_wants_of_isExact (hexact : r.IsExact) {q : SearchQuery} (hq : e.query r = some q) :
    q.wantsEmbedding r = false ∧ q.wantsIntent r = false := by
  obtain ⟨text, htext, rfl⟩ := Option.map_eq_some_iff.mp hq
  obtain ⟨typed, htyped, hsome, rfl⟩ := SearchRequest.text?_eq_some_iff.mp htext
  rcases hexact with hblank | hkeyword | ⟨code, hcode, hisCode⟩
  · exact absurd (hblank typed htyped) hsome
  · simp [SearchQuery.wantsEmbedding, SearchQuery.wantsIntent, hkeyword]
  · obtain rfl : typed = code := Option.some.inj (htyped.symm.trans hcode)
    have hcodeQuery : (SearchQuery.ofText e.sources (trim typed)).isCode = true := by
      rw [SearchQuery.ofText_isCode, analyze_isCode, isCodeQuery, trim_trim, ← isCodeQuery, hisCode]
    simp [SearchQuery.wantsEmbedding, SearchQuery.wantsIntent, intentApplicable, hcodeQuery]

theorem signals_of_isExact (hexact : r.IsExact) :
    e.signals r (e.query r) = pure ⟨none, none⟩ := by
  have hembedding : (e.query r).filter (·.wantsEmbedding r) = none := by
    rw [Option.filter_eq_none_iff]
    intro q hq
    simp [(not_wants_of_isExact hexact hq).1]
  have hintent : (e.query r).filter (·.wantsIntent r) = none := by
    rw [Option.filter_eq_none_iff]
    intro q hq
    simp [(not_wants_of_isExact hexact hq).2]
  rw [signals, hembedding, hintent, Option.map_none, Embedding.ask_none, Intent.ask_none]
  rfl

variable {embedder : Option Embedder} {classifier : Option Classifier}
  {embedPatience classifyPatience : Nat}

theorem query_withHelpers :
    (e.withHelpers embedder embedPatience classifier classifyPatience).query r = e.query r := by
  have hofText : SearchQuery.ofText (e.sources.withClassifier classifier classifyPatience)
      = SearchQuery.ofText e.sources :=
    SearchQuery.ofText_congr rfl
  rw [query, query, ← hofText]
  rfl

theorem search_eq_run {w : Weights} {plan : Plan}
    (hplan : Plan.ofRequest e.indexBase w r = .ok plan) : e.search w r = e.run r plan := by
  unfold search
  rw [hplan]

theorem run_withHelpers (hexact : r.IsExact) (plan : Plan) :
    (e.withHelpers embedder embedPatience classifier classifyPatience).run r plan
      = e.run r plan := by
  rw [run, run, signals_of_isExact hexact, signals_of_isExact hexact, query_withHelpers]
  rfl

/-- A search that browses, by keywords alone or for a code ends the same whoever there is to embed
and to classify queries, and neither is called. -/
theorem search_withHelpers (e : Engine) (embedder : Option Embedder) (embedPatience : Nat)
    (classifier : Option Classifier) (classifyPatience : Nat) (w : Weights) {r : SearchRequest}
    (hexact : r.IsExact) :
    (e.withHelpers embedder embedPatience classifier classifyPatience).search w r = e.search w r ∧
      ∀ call ∈ (e.search w r).calls,
        call.helper? ≠ some .embedder ∧ call.helper? ≠ some .classifier := by
  cases hplan : Plan.ofRequest e.indexBase w r with
  | error cause =>
      have hother := (e.withHelpers embedder embedPatience classifier
        classifyPatience).search_of_invalid hplan
      rw [e.search_of_invalid hplan, hother]
      exact ⟨rfl, by simp⟩
  | ok plan =>
      constructor
      · have hother := (e.withHelpers embedder embedPatience classifier
          classifyPatience).search_eq_run hplan
        rw [e.search_eq_run hplan, hother, run_withHelpers hexact]
      · intro call hcall
        rw [e.search_calls_of_plan hplan, signals_of_isExact hexact, Traced.calls_pure,
          List.nil_append, List.mem_append] at hcall
        rcases hcall with hbatch | hrerank
        · simp [Batch.helper?_of_mem_calls hbatch]
        · cases hfound : e.retrieve r plan with
          | error cause =>
              rw [hfound] at hrerank
              cases hrerank
          | ok found =>
              rw [hfound] at hrerank
              simp [Page.helper?_of_mem_calls hrerank]

def codeRequest : SearchRequest := { SearchRequest.empty with query := some " bd-1800 " }

theorem search_withHelpers_of_code :
    (failing Walk.threeHits).search .default codeRequest
        = ((failing Walk.threeHits).withHelpers none 0 none 0).search .default codeRequest ∧
      ((failing Walk.threeHits).search .default codeRequest).value.toOption.isSome ∧
      ∀ call ∈ ((failing Walk.threeHits).search .default codeRequest).calls,
        call.helper? ≠ some .embedder := by
  have hcode : isCodeQuery " bd-1800 " = true := by decide +kernel
  have hexact : codeRequest.IsExact := .inr (.inr ⟨" bd-1800 ", rfl, hcode⟩)
  obtain ⟨hsame, hcalls⟩ := (failing Walk.threeHits).search_withHelpers none 0 none 0 .default hexact
  exact ⟨hsame.symm, by decide +kernel, fun call hcall => (hcalls call hcall).1⟩

end Engine

end HybridSearch
