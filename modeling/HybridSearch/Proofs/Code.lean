import HybridSearch.Proofs.Ascii
import HybridSearch.Proofs.Bounds
import HybridSearch.Proofs.Pattern
import HybridSearch.Proofs.Unasked
import HybridSearch.Proofs.Unclassified
import HybridSearch.Proofs.Words

/-!
# Searches for a code

A code begins with a letter or two, and what follows them follows a dash. So its stem begins with a
letter or two as well, while the stem of a generic noun begins with three letters at least, and the
code is taken for no such noun. Hence no stage of enrichment adds to a code, changes it or drops it,
and the main search looks for it as it stands.
-/

namespace HybridSearch

/-! ### The letters of a code -/

namespace Text

/-- A letter or two, with nothing after them but what a mark begins. -/
def Initialled (mark : Char) (cs : List Char) : Prop :=
  ∃ letters rest, cs = letters ++ rest ∧ letters ≠ [] ∧ letters.length ≤ 2 ∧
    (∀ c ∈ letters, c.isAlpha) ∧ (rest = [] ∨ ∃ more, rest = mark :: more)

theorem Initialled.exists_word {cs : List Char} (hcs : Initialled '-' cs) :
    ∃ word ∈ wordChars cs, Initialled '-' word := by
  obtain ⟨letters, rest, rfl, hsome, hfew, halpha, hrest⟩ := hcs
  have hword : ∀ c ∈ letters, (!isSpace c) = true := by
    intro c hc
    rw [(isLetter_of_isAlpha (halpha c hc)).space]
    rfl
  rw [wordChars, runs_append hsome hword]
  refine ⟨_, List.mem_cons_self, letters, _, rfl, hsome, hfew, halpha, ?_⟩
  rcases hrest with rfl | ⟨more, rfl⟩
  · exact .inl rfl
  · exact .inr ⟨_, List.takeWhile_cons_of_pos (by decide)⟩

theorem lowerAfter_letters {letters : List Char} (halpha : ∀ c ∈ letters, c.isAlpha)
    (before rest : List Char) : lowerAfter before (letters ++ rest)
      = letters.map Char.toLower ++ lowerAfter (letters.reverse ++ before) rest := by
  induction letters generalizing before with
  | nil => rfl
  | cons c letters ih =>
      have hc := halpha c List.mem_cons_self
      have hsigma : c ≠ 'Σ' := by
        rintro rfl
        exact absurd hc (by decide)
      rw [List.cons_append, lowerAfter, if_neg hsigma, (isLetter_of_isAlpha hc).lower,
        ih fun d hd => halpha d (List.mem_cons_of_mem c hd)]
      simp

theorem Initialled.lowercase {s : String} (hs : Initialled '-' s.toList) :
    Initialled '-' (lowercase s).toList := by
  obtain ⟨letters, rest, htext, hsome, hfew, halpha, hrest⟩ := hs
  rw [Text.lowercase, String.toList_ofList, lowerChars, htext, lowerAfter_letters halpha]
  refine ⟨_, _, rfl, by simpa using hsome, by simpa using hfew, ?_, ?_⟩
  · intro c hc
    obtain ⟨d, hd, rfl⟩ := List.mem_map.mp hc
    exact (isLetter_of_isAlpha (halpha d hd)).alpha_toLower
  · rcases hrest with rfl | ⟨more, rfl⟩
    · exact .inl rfl
    · exact .inr ⟨_, rfl⟩

end Text

namespace Language

open Text

/-- No rule of stemming applies to a word so short. -/
theorem Stem.ofPiece_letters {letters : List Char} (hfew : letters.length ≤ 2)
    (halpha : ∀ c ∈ letters, c.isAlpha) : Stem.ofPiece letters = letters.map Char.toLower := by
  have hlower : letters.flatMap lowerChar = letters.map Char.toLower := by
    rw [List.map_eq_flatMap]
    exact List.flatMap_congr fun c hc => (isLetter_of_isAlpha (halpha c hc)).lower
  have hregular : Stem.exceptions.lookup (.ofList (letters.map Char.toLower)) = none := by
    have hlong : ∀ e ∈ Stem.exceptions, 2 < e.1.length := by decide +kernel
    rw [List.lookup_eq_none_iff]
    intro e he
    rw [bne_iff_ne]
    intro heq
    have hlength := hlong e he
    rw [← heq, String.length_ofList, List.length_map] at hlength
    omega
  have hword : ofWord (letters.map Char.toLower) = letters.map Char.toLower := by
    rw [ofWord, hregular]
    exact if_pos (by rw [List.length_map]; omega)
  rw [ofPiece, hlower, hword, dropFinalI, if_neg]
  rw [List.length_map]
  omega

theorem initialled_stem {s : String} (hs : Initialled '-' s.toList) :
    Initialled ' ' (stem s).toList := by
  obtain ⟨letters, rest, htext, hsome, hfew, halpha, hrest⟩ := hs
  have hpiece : ∀ c ∈ letters, isAlphanumeric c = true :=
    fun c hc => (isLetter_of_isAlpha (halpha c hc)).alphanumeric
  have hstop : rest.takeWhile isAlphanumeric = [] := by
    rcases hrest with rfl | ⟨more, rfl⟩
    · rfl
    · exact List.takeWhile_cons_of_neg (by decide)
  rw [stem, htext, runs_append hsome hpiece, hstop, List.append_nil, List.map_cons,
    Stem.ofPiece_letters hfew halpha]
  refine ⟨letters.map Char.toLower, ?_⟩
  have hlowered : ∀ c ∈ letters.map Char.toLower, c.isAlpha := by
    intro c hc
    obtain ⟨d, hd, rfl⟩ := List.mem_map.mp hc
    exact (isLetter_of_isAlpha (halpha d hd)).alpha_toLower
  obtain hstem | ⟨more, hstem⟩ := intercalate_cons_cases (.ofList (letters.map Char.toLower))
    ((runs isAlphanumeric (rest.dropWhile isAlphanumeric)).map fun p => .ofList (Stem.ofPiece p))
  · refine ⟨[], ?_, by simpa using hsome, by simpa using hfew, hlowered, .inl rfl⟩
    rw [hstem, String.toList_ofList, List.append_nil]
  · refine ⟨' ' :: more, ?_, by simpa using hsome, by simpa using hfew, hlowered, .inr ⟨_, rfl⟩⟩
    rw [hstem, String.toList_ofList]

/-- Generic nouns and their stems begin with more letters than a code. -/
theorem isGeneric_of_initialled {mark : Char} (hmark : mark.isAlpha = false) {s : String}
    (hs : Initialled mark s.toList) : Stoplist.default.isGeneric s = false := by
  have hlong : ∀ g ∈ Stoplist.default.stems, 2 < (g.toList.takeWhile Char.isAlpha).length := by
    decide +kernel
  obtain ⟨letters, rest, htext, -, hfew, halpha, hrest⟩ := hs
  have hstop : rest.takeWhile Char.isAlpha = [] := by
    rcases hrest with rfl | ⟨more, rfl⟩
    · rfl
    · exact List.takeWhile_cons_of_neg (by simp [hmark])
  have hshort : (s.toList.takeWhile Char.isAlpha).length ≤ 2 := by
    rwa [htext, List.takeWhile_append_of_pos halpha, hstop, List.append_nil]
  rw [Stoplist.isGeneric, ← Bool.not_eq_true, List.contains_iff_mem]
  intro hmem
  have hletters := hlong s hmem
  omega

theorem isAllGeneric_of_initialled {text : String} (htext : Initialled '-' text.toList) :
    Stoplist.default.isAllGeneric text = false := by
  obtain ⟨word, hword, hinitialled⟩ := htext.exists_word
  have hlower : Initialled '-' (lowercase (.ofList word)).toList :=
    Initialled.lowercase (by rwa [String.toList_ofList])
  rw [Query.isAllGeneric_eq_false_iff]
  exact ⟨.ofList word, List.mem_map_of_mem hword, isGeneric_of_initialled (by decide) hlower,
    isGeneric_of_initialled (by decide) (initialled_stem hlower)⟩

end Language

namespace Query

open Text Pattern

theorem letters_of_matches {cs : List Char} (hcs : Matches (between asciiLetter 1 1) cs) :
    cs ≠ [] ∧ cs.length ≤ 2 ∧ ∀ c ∈ cs, c.isAlpha := by
  obtain ⟨⟨hsome, hfew⟩, halpha⟩ := matches_between_one_iff.mp hcs
  exact ⟨List.ne_nil_of_length_pos hsome, hfew, halpha⟩

theorem initialled_of_isCode {text : String} (hcode : isCode text) :
    Initialled '-' text.toList := by
  have hparts : Matches codePattern text.toList := accepts_iff.mp hcode
  obtain ⟨letters, rest, hletters, hrest, htext⟩ := matches_seq_iff.mp hparts
  obtain ⟨hsome, hfew, halpha⟩ := letters_of_matches hletters
  refine ⟨letters, rest, htext, hsome, hfew, halpha, ?_⟩
  rcases matches_optional_iff.mp hrest with hlevels | hnone
  · obtain ⟨t, u, hdash, -, rfl⟩ := matches_seq_iff.mp hlevels
    obtain ⟨c, hc, rfl⟩ := matches_one_iff.mp hdash
    obtain rfl : c = '-' := of_decide_eq_true hc
    exact .inr ⟨u, rfl⟩
  · exact .inl hnone

/-! ### Enrichment of a code -/

variable {s : Sources} {c : Context}

/-- A stage has nothing to do for a code, unless it drops queries as generic. -/
theorem Stage.step_of_isCode {stage : Stage} (hcode : c.isCode)
    (hspecific : ∀ q ∈ c.processed, s.stoplist.isAllGeneric q.text = false)
    (hstage : stage ≠ .codeDetection) : stage.step s c = c := by
  cases stage with
  | codeDetection => exact absurd rfl hstage
  | stemming => simp [step, applies, hcode]
  | synonymExpansion => simp [step, applies, hcode]
  | intentClassification => simp [step, applies, intentApplicable, hcode]
  | genericNounFilter =>
      have hkept : c.processed.filter (fun q => !s.stoplist.isAllGeneric q.text) = c.processed := by
        rw [List.filter_eq_self]
        intro q hq
        rw [hspecific q hq]
        rfl
      rw [step, run, dropGenericQueries, hkept, ite_self]

theorem runStages_of_isCode {stages : List Stage} (hcode : c.isCode)
    (hspecific : ∀ q ∈ c.processed, s.stoplist.isAllGeneric q.text = false)
    (hstages : .codeDetection ∉ stages) : runStages s stages c = c := by
  induction stages with
  | nil => rfl
  | cons stage stages ih =>
      rw [List.mem_cons, not_or] at hstages
      rw [runStages_cons, Stage.step_of_isCode hcode hspecific (Ne.symm hstages.1), ih hstages.2]

/-- What is known of a code before and after enrichment. -/
def Context.ofCode (code : String) (features : List Feature) : Context :=
  ⟨code, true, codeFields, [⟨code, .user, "original"⟩], features, none⟩

theorem detectCode_of_isCode {query : String} (hcode : isCodeQuery query)
    (features : List Feature) :
    detectCode (.ofQuery query features) = Context.ofCode (trim query) features := by
  have hcode' : isCode (Context.ofQuery query features).query = true := hcode
  rw [detectCode, hcode']
  rfl

theorem enrich_of_isCode (hstoplist : s.stoplist = .default) {query : String}
    (hcode : isCodeQuery query) (version : Version) (disableIntent : Bool) :
    enrich s version query disableIntent
      = Context.ofCode (trim query) (version.enabled disableIntent) := by
  by_cases hversion : version = .v1
  · subst hversion
    rw [enrich_v1, detectCode_of_isCode hcode]
    cases disableIntent <;> rfl
  · rw [enrich_eq hversion, detectCode_of_isCode hcode]
    refine runStages_of_isCode rfl (fun q hq => ?_) (by decide)
    rw [List.mem_singleton.mp hq, hstoplist]
    exact Language.isAllGeneric_of_initialled (initialled_of_isCode hcode)

theorem analyze_of_isCode (s : Sources) {query : String} (hcode : isCodeQuery query) :
    analyze s query = Context.ofCode (trim query) [.stemming, .dualQuery] := by
  have hstem : Stage.stemming.step s (Context.ofCode (trim query) [.stemming, .dualQuery])
      = Context.ofCode (trim query) [.stemming, .dualQuery] := by
    simp [Stage.step, Stage.applies, Context.ofCode]
  rw [analyze, runStages_cons, Stage.step_codeDetection, detectCode_of_isCode hcode,
    runStages_cons, hstem]
  rfl

end Query

/-! ### The search for a code -/

open Query Text

theorem SearchRequest.text?_of_isCode {r : SearchRequest} {query : String}
    (hquery : r.query = some query) (hcode : isCodeQuery query) : r.text? = some (trim query) := by
  rw [text?_eq_some_iff]
  refine ⟨query, hquery, ?_, rfl⟩
  rw [← trim_eq_empty_iff]
  intro hempty
  obtain ⟨letters, rest, htext, hsome, -⟩ := initialled_of_isCode hcode
  rw [hempty] at htext
  exact hsome (List.append_eq_nil_iff.mp htext.symm).1

theorem SearchQuery.ofText_of_isCode (s : Sources) {query : String} (hcode : isCodeQuery query) :
    ofText s (trim query) = ⟨trim query, true, ⟨trim query, none, none⟩⟩ := by
  have htrimmed : isCodeQuery (trim query) := by rwa [isCodeQuery, trim_trim]
  rw [ofText, analyze_of_isCode s htrimmed, trim_trim]
  rfl

/-- A code is looked for in one way, and not at all if keywords have no weight. -/
theorem ClauseInputs.clauses_of_isCode (code : String) (poolSize : Nat) (w : Weights)
    (filters : List FilterQuery) :
    clauses ⟨⟨code, none, none⟩, true, none, none, poolSize⟩ w filters =
      if w.strategies.keywordSearch ≤ 0 then [] else
        [⟨"keyword_original", .ofFloat w.strategies.keywordSearch,
          searchBody (.text code taxonomyCodeFields) filters ⟨none, poolSize⟩⟩] := by
  simp only [clauses, retrievals, candidates, semantic, keyword, intent, if_true,
    List.nil_append, List.append_nil]
  by_cases hzero : w.strategies.keywordSearch ≤ 0
  · simp [hzero]
  · simp [hzero, Retrieval.clause, Strategy.name]

namespace Engine

variable {e : Engine} {r : SearchRequest} {query : String}

theorem clauses_of_isCode (hquery : r.query = some query) (hcode : isCodeQuery query) (plan : Plan) :
    e.clauses r plan =
      if plan.weights.strategies.keywordSearch ≤ 0 then [] else
        [⟨"keyword_original", .ofFloat plan.weights.strategies.keywordSearch,
          searchBody (.text (trim query) taxonomyCodeFields) plan.filters.queries
            ⟨none, e.poolSize⟩⟩] := by
  have hexact : r.IsExact := .inr (.inr ⟨query, hquery, hcode⟩)
  have htext : e.query r = some ⟨trim query, true, ⟨trim query, none, none⟩⟩ := by
    rw [Engine.query, SearchRequest.text?_of_isCode hquery hcode, Option.map_some,
      SearchQuery.ofText_of_isCode e.sources hcode]
  rw [Engine.clauses, signals_of_isExact hexact, htext]
  exact ClauseInputs.clauses_of_isCode _ _ _ _

end Engine

theorem Weights.keywordSearch_nonneg {w : Weights} (hvalid : w.isValid) :
    0 ≤ w.strategies.keywordSearch := by
  have hadmits := isValid_iff.mp hvalid .keywordSearch
  simp only [WeightField.admits, Bool.and_eq_true, decide_eq_true_iff] at hadmits
  exact hadmits.1.2

/-- Enrichment leaves a code as it is in every version, and the main search looks for the code as it
stands, or, if keywords have no weight, for nothing. Neither asks for anything else about it. -/
theorem code_stands_alone {query : String} (hcode : isCodeQuery query) :
    (∀ (s : Sources) (version : Version) (disableIntent : Bool), s.stoplist = .default →
      enrich s version query disableIntent = ⟨trim query, true, codeFields,
        [⟨trim query, .user, "original"⟩], version.enabled disableIntent, none⟩) ∧
    ∀ (e : Engine) (r : SearchRequest) (plan : Plan), r.query = some query →
      plan.weights.isValid →
      let clause : Clause := ⟨"keyword_original", .ofFloat plan.weights.strategies.keywordSearch,
        searchBody (.text (trim query) taxonomyCodeFields) plan.filters.queries
          ⟨none, e.poolSize⟩⟩
      e.clauses r plan = (if plan.weights.strategies.keywordSearch == 0 then [] else [clause]) ∧
      ∀ w, Plan.ofRequest e.indexBase w r = .ok plan →
        ∃ reranks, (∀ call ∈ reranks, call.helper? = some .reranker) ∧
          (e.search w r).calls = (if plan.weights.strategies.keywordSearch == 0 then []
            else [.search plan.index [clause.body]]) ++ reranks := by
  refine ⟨fun s version disableIntent hstoplist => enrich_of_isCode hstoplist hcode _ _, ?_⟩
  intro e r plan hquery hvalid clause
  have hclauses : e.clauses r plan
      = if plan.weights.strategies.keywordSearch == 0 then [] else [clause] := by
    rw [Engine.clauses_of_isCode hquery hcode]
    simp only [float_le_zero_iff (Weights.keywordSearch_nonneg hvalid)]
    rfl
  refine ⟨hclauses, fun w hplan => ?_⟩
  have hexact : r.IsExact := .inr (.inr ⟨query, hquery, hcode⟩)
  have hsent : (Batch.execute e.backend plan.index (e.clauses r plan)).calls
      = if plan.weights.strategies.keywordSearch == 0 then []
        else [.search plan.index [clause.body]] := by
    rw [hclauses]
    split_ifs
    · rfl
    · rfl
  rw [e.search_calls_of_plan hplan, Engine.signals_of_isExact hexact, Traced.calls_pure,
    List.nil_append, hsent]
  refine ⟨_, ?_, rfl⟩
  intro call hcall
  split at hcall
  · cases hcall
  · exact Page.helper?_of_mem_calls hcall

theorem code_stands_alone_of_bd :
    isCodeQuery " bd-1800 " ∧
      (enrich { rentSources with stoplist := .default } .v3 " bd-1800 " false).processed
        = [⟨"bd-1800", .user, "original"⟩] ∧
      ∃ reranks, (∀ call ∈ reranks, call.helper? = some .reranker) ∧
        ((Engine.failing Walk.threeHits).search .default Engine.codeRequest).calls =
          [.search "resources_en" [searchBody (.text "bd-1800" taxonomyCodeFields) []
            ⟨none, (Engine.failing Walk.threeHits).poolSize⟩]] ++ reranks := by
  have hcode : isCodeQuery " bd-1800 " = true := by decide +kernel
  have htrim : trim " bd-1800 " = "bd-1800" := by decide +kernel
  obtain ⟨henrich, hsearch⟩ := code_stands_alone hcode
  refine ⟨hcode, ?_, ?_⟩
  · rw [henrich { rentSources with stoplist := .default } .v3 false rfl, htrim]
  · have hplan : Plan.ofRequest (Engine.failing Walk.threeHits).indexBase .default
        Engine.codeRequest = .ok Engine.queryPlan := by
      rfl
    have hweights : (Weights.default.strategies.keywordSearch == 0) = false := by decide +kernel
    obtain ⟨-, hcalls⟩ := hsearch (Engine.failing Walk.threeHits) Engine.codeRequest
      Engine.queryPlan rfl Weights.isValid_default
    obtain ⟨reranks, honly, hreranks⟩ := hcalls .default hplan
    refine ⟨reranks, honly, ?_⟩
    rw [hreranks, Engine.queryPlan, hweights, htrim]
    rfl

end HybridSearch
