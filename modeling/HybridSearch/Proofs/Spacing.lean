import HybridSearch.Proofs.Lowercase
import HybridSearch.Proofs.Pattern
import HybridSearch.Proofs.Stem
import HybridSearch.Proofs.Strategies
import HybridSearch.Proofs.Tokens
import HybridSearch.Proofs.Unasked

/-!
# Queries with the same words

The stemmed form of a query and its nouns are made from its words, so the blanks between them do not
matter. They do matter where the stemmed form, which has single blanks between its words, is
compared with the query as it was typed.
-/

namespace HybridSearch

/-! ### Single blanks -/

namespace Text

variable {s p q w : String} {ws : List String}

/-- A text whose words stand one blank apart, with nothing around them. -/
def SingleSpaced (s : String) : Prop := " ".intercalate (words s) = s

instance : DecidablePred SingleSpaced := fun _ => inferInstanceAs (Decidable (_ = _))

theorem toList_intercalate_cons_cons (w w' : String) (ws : List String) :
    (" ".intercalate (w :: w' :: ws)).toList
      = w.toList ++ ' ' :: (" ".intercalate (w' :: ws)).toList := by
  rw [String.intercalate_cons_cons, String.toList_append, String.toList_append, List.append_assoc]
  rfl

/-- Joining texts by blanks joins no words. -/
theorem words_joined (texts : List String) :
    words (" ".intercalate texts) = texts.flatMap words := by
  induction texts with
  | nil => rfl
  | cons t texts ih =>
      cases texts with
      | nil => simp
      | cons t' texts =>
          rw [words, toList_intercalate_cons_cons,
            wordChars_append (beginsBlank_cons.mpr (by decide)), wordChars_blank (by decide),
            List.map_append, List.flatMap_cons, ← ih]
          rfl

theorem words_of_isSolid (hw : IsSolid w.toList) : words w = [w] := by
  have hone := hw.wordChars_append beginsBlank_nil
  rw [List.append_nil, wordChars_nil] at hone
  simp [words, hone]

theorem words_intercalate (hws : ∀ w ∈ ws, IsSolid w.toList) : words (" ".intercalate ws) = ws := by
  rw [words_joined, List.flatMap_congr fun w hw => words_of_isSolid (hws w hw)]
  simp

theorem singleSpaced_intercalate (hws : ∀ w ∈ ws, IsSolid w.toList) :
    SingleSpaced (" ".intercalate ws) := by
  rw [SingleSpaced, words_intercalate hws]

theorem words_trim (s : String) : words (trim s) = words s := by
  rw [words, trim, String.toList_ofList, wordChars_trimChars, words]

theorem words_lowercase (s : String) : words (lowercase s) = (words s).map lowercase := by
  rw [words, lowercase, String.toList_ofList, wordChars_lowerChars, words, List.map_map,
    List.map_map]
  refine List.map_congr_left fun cs _ => ?_
  simp [lowercase]

theorem lowercase_intercalate (ws : List String) :
    lowercase (" ".intercalate ws) = " ".intercalate (ws.map lowercase) := by
  induction ws with
  | nil => rfl
  | cons w ws ih =>
      cases ws with
      | nil => simp
      | cons w' ws =>
          rw [lowercase, toList_intercalate_cons_cons,
            lowerChars_append (beginsBlank_cons.mpr (by decide)), lowerChars_blank (by decide),
            List.map_cons, List.map_cons, ← String.toList_inj, toList_intercalate_cons_cons,
            ← List.map_cons, ← ih]
          simp [lowercase]

theorem lowercase_eq_of_words (hwords : words p = words q) (hlower : lowercase p = lowercase q) :
    p = q := by
  rw [← String.toList_inj]
  refine eq_of_lowerChars_eq ?_ (String.ofList_inj.mp hlower)
  rw [← toList_words, hwords, toList_words]

theorem singleSpaced_of_isSolid (hw : IsSolid w.toList) : SingleSpaced w := by
  rw [SingleSpaced, words_of_isSolid hw, String.intercalate_singleton]

theorem trim_of_words_singleton (hwords : words s = [w]) : trim s = w := by
  have hchars : wordChars s.toList = [w.toList] := by rw [← toList_words, hwords]; rfl
  rw [trim, trimChars_of_wordChars_singleton hchars, String.ofList_toList]

/-- Two words take three characters at least. -/
theorem length_of_words {w₁ w₂ : String} (hwords : words s = w₁ :: w₂ :: ws) :
    2 < s.length := by
  have hchars : wordChars s.toList = w₁.toList :: w₂.toList :: ws.map String.toList := by
    rw [← toList_words, hwords]
    rfl
  have hlength := length_lt_of_wordChars hchars
  have hsome₁ := (isSolid_of_mem_words (s := s) (w := w₁) (by simp [hwords])).some
  have hsome₂ := (isSolid_of_mem_words (s := s) (w := w₂) (by simp [hwords])).some
  have hpos₁ := List.length_pos_iff.mpr hsome₁
  have hpos₂ := List.length_pos_iff.mpr hsome₂
  rw [← String.length_toList]
  omega

theorem SingleSpaced.words_ne_nil (hs : SingleSpaced s) (hsome : s ≠ "") : words s ≠ [] := by
  intro hnone
  rw [SingleSpaced, hnone] at hs
  exact hsome hs.symm

theorem SingleSpaced.isBlank_eq_false (hs : SingleSpaced s) (hsome : s ≠ "") : isBlank s = false :=
  Bool.eq_false_iff.mpr fun hblank => hs.words_ne_nil hsome (words_eq_nil_iff.mpr hblank)

/-- Texts with single blanks, joined by single blanks. -/
theorem SingleSpaced.intercalate {texts : List String}
    (htexts : ∀ t ∈ texts, SingleSpaced t ∧ t ≠ "") : SingleSpaced (" ".intercalate texts) := by
  have hflat : " ".intercalate texts = " ".intercalate (texts.flatMap words) := by
    induction texts with
    | nil => rfl
    | cons t texts ih =>
        rw [List.forall_mem_cons] at htexts
        obtain ⟨⟨ht, hsome⟩, hlater⟩ := htexts
        rw [List.flatMap_cons]
        cases texts with
        | nil => rw [String.intercalate_singleton, List.flatMap_nil, List.append_nil, ht]
        | cons t' texts =>
            obtain ⟨ht', hsome'⟩ := hlater t' List.mem_cons_self
            have hmore : (t' :: texts).flatMap words ≠ [] :=
              List.append_ne_nil_of_left_ne_nil (ht'.words_ne_nil hsome') _
            rw [String.intercalate_cons_of_ne_nil (List.cons_ne_nil _ _),
              String.intercalate_append_of_ne_nil (ht.words_ne_nil hsome) hmore, ht, ih hlater]
  rw [hflat]
  apply singleSpaced_intercalate
  intro w hw
  obtain ⟨t, -, hw⟩ := List.mem_flatMap.mp hw
  exact isSolid_of_mem_words hw

/-- A text that has single blanks is the lowercase of another one only if that one has. -/
theorem SingleSpaced.eq_lowercase_iff (hs : SingleSpaced s) : s = lowercase q ↔
    s = lowercase (" ".intercalate (words q)) ∧ SingleSpaced q := by
  constructor
  · intro heq
    have hjoined : s = lowercase (" ".intercalate (words q)) := by
      rw [lowercase_intercalate, ← words_lowercase, ← heq, hs]
    refine ⟨hjoined, lowercase_eq_of_words ?_ (hjoined.symm.trans heq)⟩
    exact words_intercalate fun w hw => isSolid_of_mem_words hw
  · rintro ⟨hjoined, hq⟩
    rw [hjoined, hq]

end Text

namespace Language

open Text

variable {stoplist : Stoplist} {p q text : String}

/-! ### Stems and nouns -/

theorem isSolid_pieces (word : String) :
    ∀ w ∈ (runs isAlphanumeric word.toList).map fun p => String.ofList (Stem.ofPiece p),
      IsSolid w.toList := by
  intro w hw
  obtain ⟨piece, hpiece, rfl⟩ := List.mem_map.mp hw
  rw [String.toList_ofList]
  obtain ⟨hsome, halphanumeric⟩ := mem_runs hpiece
  exact Stem.isSolid_ofPiece
    ⟨hsome, fun c hc => not_isSpace_of_isAlphanumeric (halphanumeric c hc)⟩

theorem singleSpaced_stem (word : String) : SingleSpaced (stem word) :=
  singleSpaced_intercalate (isSolid_pieces word)

theorem stem_ne_empty {word : String} (hword : word.toList.any isAlphanumeric) :
    stem word ≠ "" := by
  intro hempty
  have hpieces := words_intercalate (isSolid_pieces word)
  rw [← stem, hempty] at hpieces
  have hnone : runs isAlphanumeric word.toList = [] := List.map_eq_nil_iff.mp hpieces.symm
  rw [runs_eq_nil_iff] at hnone
  obtain ⟨c, hc, halphanumeric⟩ := List.any_eq_true.mp hword
  rw [hnone c hc] at halphanumeric
  exact absurd halphanumeric Bool.false_ne_true

theorem any_isAlphanumeric_lowerAfter {u cs : List Char} (hcs : cs.any isAlphanumeric) :
    (lowerAfter u cs).any isAlphanumeric := by
  induction cs generalizing u with
  | nil => cases hcs
  | cons c cs ih =>
      have himage (hc : isAlphanumeric c) : (lowerChar c).any isAlphanumeric := by
        rcases lowerChar_cases c with hsame | hcapital
        · simpa [hsame] using hc
        · obtain ⟨d, ds, himage, hd⟩ := hcapital.image_alphanumeric
          simp [himage, hd]
      rw [List.any_cons, Bool.or_eq_true] at hcs
      rcases lowerAfter_cons u c cs with hstep | ⟨-, hstep⟩
      · rw [hstep, List.any_append, Bool.or_eq_true]
        exact hcs.imp himage ih
      · rw [hstep, List.any_cons, Bool.or_eq_true]
        exact .inl (by decide +kernel)

theorem any_isAlphanumeric_of_noun {noun : String} (hnoun : noun ∈ extractNouns text) :
    noun.toList.any isAlphanumeric := by
  obtain ⟨_, -, token, -, rfl, halphanumeric, -⟩ := mem_extractNouns hnoun
  simpa [lowercase, lowerChars] using any_isAlphanumeric_lowerAfter (u := []) halphanumeric

theorem singleSpaced_stemLong (stoplist : Stoplist) (text : String) :
    SingleSpaced (stemLong stoplist (extractNouns text)) := by
  refine SingleSpaced.intercalate fun t ht => ?_
  obtain ⟨noun, hnoun, rfl⟩ := List.mem_map.mp (List.mem_filter.mp ht).1
  exact ⟨singleSpaced_stem noun, stem_ne_empty (any_isAlphanumeric_of_noun hnoun)⟩

theorem singleSpaced_stemShort (text : String) : SingleSpaced (stemShort text) := by
  refine SingleSpaced.intercalate fun t ht => ?_
  obtain ⟨ht, hsome⟩ := List.mem_filter.mp ht
  obtain ⟨w, hw, rfl⟩ := List.mem_map.mp ht
  refine ⟨?_, of_decide_eq_true hsome⟩
  by_cases hlong : minStemLength ≤ w.length
  · rw [stemShortWord, if_pos hlong]
    exact singleSpaced_stem w
  · rw [stemShortWord, if_neg hlong]
    refine singleSpaced_of_isSolid ?_
    rw [lowercase, String.toList_ofList]
    exact (isSolid_of_mem_words hw).lowerChars

/-- What a query is reduced to. -/
def stemmedForm (stoplist : Stoplist) (query : String) : String :=
  if isShortQuery query then stemShort query else stemLong stoplist (extractNouns query)

theorem singleSpaced_stemmedForm (stoplist : Stoplist) (query : String) :
    SingleSpaced (stemmedForm stoplist query) := by
  cases hshort : isShortQuery query with
  | true =>
      rw [stemmedForm, if_pos hshort]
      exact singleSpaced_stemShort query
  | false =>
      rw [stemmedForm, if_neg (by simp [hshort])]
      exact singleSpaced_stemLong stoplist query

theorem stemQuery_eq (stoplist : Stoplist) (query : String) : stemQuery stoplist query =
    ⟨trim query, stemmedForm stoplist (trim query),
      stemmedForm stoplist (trim query) ≠ "" &&
        stemmedForm stoplist (trim query) ≠ lowercase (trim query),
      if isShortQuery (trim query) then none else some (extractNouns (trim query))⟩ := by
  rw [stemQuery, stemmedForm]
  cases isShortQuery (trim query) with
  | true => simp only [if_true]
  | false => simp only [Bool.false_eq_true, if_false]

@[simp]
theorem stemQuery_trim (stoplist : Stoplist) (query : String) :
    stemQuery stoplist (trim query) = stemQuery stoplist query := by
  simp only [stemQuery_eq, trim_trim]

theorem stemmedForm_congr (hwords : words p = words q) :
    stemmedForm stoplist p = stemmedForm stoplist q := by
  rw [stemmedForm, stemmedForm, isShortQuery, isShortQuery, wordCount, wordCount, stemShort,
    stemShort, extractNouns_congr hwords, hwords]

/-- The stemmed form and the nouns are made from the words of a query. -/
theorem stemQuery_congr (stoplist : Stoplist) (hwords : words p = words q) :
    (stemQuery stoplist p).stemmed = (stemQuery stoplist q).stemmed ∧
      (stemQuery stoplist p).nouns = (stemQuery stoplist q).nouns := by
  have htrimmed : words (trim p) = words (trim q) := by rw [words_trim, words_trim, hwords]
  have hform : stemmedForm stoplist (trim p) = stemmedForm stoplist (trim q) :=
    stemmedForm_congr htrimmed
  have hshort : isShortQuery (trim p) = isShortQuery (trim q) := by
    rw [isShortQuery, isShortQuery, wordCount, wordCount, htrimmed]
  simp only [stemQuery_eq, hform, hshort, extractNouns_congr htrimmed, and_self]

/-- A stemmed form passes for new if it is, or if the blanks of the query are not single ones. -/
theorem useful_iff (stoplist : Stoplist) (query : String) : (stemQuery stoplist query).useful ↔
    (stemQuery stoplist query).stemmed ≠ "" ∧
      ((stemQuery stoplist query).stemmed ≠ lowercase (" ".intercalate (words query)) ∨
        ¬ SingleSpaced (trim query)) := by
  have hform := (singleSpaced_stemmedForm stoplist (trim query)).eq_lowercase_iff (q := trim query)
  rw [words_trim] at hform
  simp only [stemQuery_eq, Bool.and_eq_true, decide_eq_true_iff]
  rw [Ne, Ne, hform, not_and_or]

end Language

/-! ### The main search -/

namespace Query

open HybridSearch.Language HybridSearch.Text

variable {s : Sources} {p q : String}

theorem isSolid_of_isCodeQuery (hcode : isCodeQuery p) : IsSolid (trim p).toList := by
  have hmatch : Pattern.Matches codePattern (trim p).toList := Pattern.accepts_iff.mp hcode
  refine ⟨fun hnone => ?_, fun c hc => ?_⟩
  · rw [hnone, ← Pattern.nullable_iff] at hmatch
    exact absurd hmatch (by decide)
  · have hclasses : ∀ q ∈ codePattern.classes, ∀ c, q c → isSpace c = false := by
      have hdigit (c : Char) (hc : isDecimal c) : isSpace c = false :=
        not_isSpace_of_isWord (isWord_of_isDecimal hc)
      have hletter (c : Char) (hc : c.isAlpha) : isSpace c = false := (isLetter_of_isAlpha hc).space
      have hmark : isSpace '-' = false ∧ isSpace '.' = false := by decide
      have hboth := And.intro hletter hdigit
      simpa [codePattern, asciiLetter, level, Pattern.all, Pattern.between, Pattern.repeated,
        Pattern.upTo, Pattern.optional, Pattern.char, Pattern.classes, hmark] using hboth
    obtain ⟨q, hq, hmem⟩ := Pattern.exists_class_of_mem hmatch hc
    exact hclasses q hq c hmem

@[simp]
theorem isCodeQuery_trim (query : String) : isCodeQuery (trim query) = isCodeQuery query := by
  rw [isCodeQuery, isCodeQuery, trim_trim]

/-- A query that is a code is a single word. -/
theorem isCodeQuery_congr (hwords : words p = words q) : isCodeQuery p = isCodeQuery q := by
  have hcode {p q : String} (hwords : words p = words q) (hcode : isCodeQuery p) :
      isCodeQuery q := by
    have hone : words q = [trim p] := by
      rw [← hwords, ← words_trim, words_of_isSolid (isSolid_of_isCodeQuery hcode)]
    rw [isCodeQuery, trim_of_words_singleton hone]
    exact hcode
  exact Bool.eq_iff_iff.mpr ⟨hcode hwords, hcode hwords.symm⟩

/-- A stem of its own is found again, if it is new and long enough. -/
theorem stemmed?_addStem {c : Context} (stoplist : Stoplist) (hdual : c.has .dualQuery)
    (hnone : c.stemmed? = none) : (addStem stoplist c).stemmed? =
      if (stemQuery stoplist c.query).useful ∧
          minStemLength ≤ (stemQuery stoplist c.query).stemmed.length
        then some (stemQuery stoplist c.query).stemmed else none := by
  rw [addStem]
  generalize stemQuery stoplist c.query = stem
  have hfind : c.processed.find? (fun q => q.type = .user && q.source = "stemmed") = none :=
    Option.map_eq_none_iff.mp hnone
  have happend : (c.append ⟨stem.stemmed, .user, "stemmed"⟩).stemmed? = some stem.stemmed := by
    rw [Context.stemmed?, Context.append, List.find?_append, hfind]
    rfl
  cases huseful : stem.useful with
  | true =>
      by_cases hshort : stem.stemmed.length < minStemLength
      · simp [hshort, Nat.not_le.mpr hshort, hnone]
      · simp [hshort, Nat.not_lt.mp hshort, hdual, happend]
  | false => simp [hnone]

theorem applies_stemming_iff {c : Context} (hstem : c.has .stemming) :
    Stage.stemming.applies s c ↔ c.isCode = false ∧ minStemLength ≤ c.query.length := by
  simp [Stage.applies, hstem]

theorem stemmed?_step {c : Context} (hstem : c.has .stemming) (hdual : c.has .dualQuery)
    (hnone : c.stemmed? = none) : (Stage.stemming.step s c).stemmed? =
      if (c.isCode = false ∧ minStemLength ≤ c.query.length) ∧
          (stemQuery s.stoplist c.query).useful ∧
            minStemLength ≤ (stemQuery s.stoplist c.query).stemmed.length
        then some (stemQuery s.stoplist c.query).stemmed else none := by
  have happlies := applies_stemming_iff (s := s) hstem
  rw [Stage.step]
  by_cases hcase : c.isCode = false ∧ minStemLength ≤ c.query.length
  · rw [if_pos (happlies.mpr hcase), Stage.run, stemmed?_addStem s.stoplist hdual hnone]
    simp only [hcase, true_and]
  · rw [if_neg (mt happlies.mp hcase), hnone, if_neg fun h => hcase h.1]

/-- Whether the main search looks for the stemmed form of a query: it is new and long enough, and
the query is no code and long enough itself. -/
def HasStem (s : Sources) (query : String) : Prop :=
  (isCodeQuery query = false ∧ minStemLength ≤ (trim query).length) ∧
    (stemQuery s.stoplist query).useful ∧
      minStemLength ≤ (stemQuery s.stoplist query).stemmed.length

instance : Decidable (HasStem s p) := inferInstanceAs (Decidable (_ ∧ _))

theorem stemmed?_analyze (s : Sources) (query : String) : (analyze s query).stemmed? =
    if HasStem s query then some (stemQuery s.stoplist query).stemmed else none := by
  have hlast (c : Context) : runStages s [] c = c := rfl
  rw [analyze, runStages_cons, Stage.step_codeDetection, runStages_cons, hlast,
    stemmed?_step rfl rfl rfl, detectCode_isCode, detectCode_query, Context.ofQuery_query,
    stemQuery_trim]
  rfl

end Query

open Query Text HybridSearch.Language

/-- Whether a request is sent with a clause for the stemmed nouns of its query. -/
def Engine.SendsStem (e : Engine) (r : SearchRequest) (plan : Plan) : Prop :=
  ∃ c ∈ e.clauses r plan, c.strategy = Strategy.keywordStemmedNouns.name

theorem ClauseInputs.sends_iff (i : ClauseInputs) (w : Weights) (filters : List FilterQuery) :
    (∃ c ∈ i.clauses w filters, c.strategy = Strategy.keywordStemmedNouns.name) ↔
      i.isPresent .keywordStemmedNouns ∧ ¬ w.variations.stemmedNouns ≤ 0 := by
  have hname : ∀ s ∈ Strategy.querying, s.name = Strategy.keywordStemmedNouns.name →
      s = .keywordStemmedNouns := by
    decide
  have hcandidates := i.candidates_weighted w
  constructor
  · rintro ⟨c, hc, hstrategy⟩
    obtain ⟨r, hr, rfl⟩ := List.mem_map.mp hc
    obtain ⟨hr, hweight⟩ := List.mem_filter.mp hr
    have hmem : (r.strategy, r.weight) ∈ i.weighted w Strategy.querying := by
      rw [← hcandidates]
      exact List.mem_map_of_mem hr
    obtain ⟨s, hs, heq⟩ := List.mem_map.mp hmem
    obtain ⟨hlisted, hpresent⟩ := List.mem_filter.mp hs
    obtain ⟨hsame, hsameWeight⟩ := Prod.mk.inj heq
    obtain rfl := hname s hlisted (by rw [hsame]; exact hstrategy)
    rw [← hsameWeight, Bool.not_eq_true'] at hweight
    exact ⟨hpresent, of_decide_eq_false hweight⟩
  · rintro ⟨hpresent, hweight⟩
    have hmem : (.keywordStemmedNouns, w.variations.stemmedNouns) ∈
        (i.candidates w).map fun r => (r.strategy, r.weight) := by
      rw [hcandidates]
      exact List.mem_map.mpr ⟨.keywordStemmedNouns, List.mem_filter.mpr ⟨by decide, hpresent⟩, rfl⟩
    obtain ⟨r, hr, heq⟩ := List.mem_map.mp hmem
    obtain ⟨hsame, hsameWeight⟩ := Prod.mk.inj heq
    refine ⟨r.clause filters i.size, List.mem_map_of_mem (List.mem_filter.mpr ⟨hr, ?_⟩), ?_⟩
    · rw [hsameWeight]
      simpa using hweight
    · rw [Retrieval.clause, hsame]

theorem SearchQuery.stemmedNouns_ofText (s : Sources) (query : String) :
    (ofText s (trim query)).keywords.stemmedNouns =
      if HasStem s query then some (stemQuery s.stoplist query).stemmed else none := by
  have hvariants (c : Context) :
      (variants c).stemmedNouns = if c.isCode then none else c.stemmed? := by
    rw [variants]
    cases c.isCode <;> rfl
  have hsame : HasStem s (trim query) ↔ HasStem s query := by
    rw [HasStem, HasStem, isCodeQuery_trim, stemQuery_trim, trim_trim]
  change (variants (analyze s (trim query))).stemmedNouns = _
  rw [hvariants, analyze_isCode, stemmed?_analyze, isCodeQuery_trim, stemQuery_trim]
  cases hcode : isCodeQuery query with
  | true =>
      have hnone : ¬ HasStem s query := fun h => by simp [h.1.1] at hcode
      rw [if_pos rfl, if_neg hnone]
  | false => simp only [Bool.false_eq_true, if_false, hsame]

theorem isBlank_stemmed {stoplist : Stoplist} {query : String}
    (hsome : (stemQuery stoplist query).stemmed ≠ "") :
    isBlank (stemQuery stoplist query).stemmed = false := by
  refine SingleSpaced.isBlank_eq_false ?_ hsome
  simp only [stemQuery_eq]
  exact singleSpaced_stemmedForm stoplist (trim query)

/-- A stemmed form is sent if there is one and it has a weight. -/
theorem Engine.sendsStem_iff (e : Engine) (r : SearchRequest) (query : String) (plan : Plan) :
    e.SendsStem { r with query := some query } plan ↔
      HasStem e.sources query ∧ ¬ plan.weights.variations.stemmedNouns ≤ 0 := by
  by_cases hblank : trim query = ""
  · have hnone : e.query { r with query := some query } = none := by
      rw [Engine.query, SearchRequest.text?, Option.map_some, hblank]
      rfl
    have hshort : ¬ minStemLength ≤ (trim query).length := by rw [hblank]; decide
    rw [Engine.SendsStem, Engine.clauses, hnone]
    refine iff_of_false ?_ fun h => hshort h.1.1.2
    rintro ⟨c, hc, hstrategy⟩
    obtain rfl : c = browseClause plan.filters.queries e.poolSize := List.mem_singleton.mp hc
    have hbrowse : Strategy.browse.name ≠ Strategy.keywordStemmedNouns.name := by decide
    exact hbrowse hstrategy
  · have htext : e.query { r with query := some query }
        = some (.ofText e.sources (trim query)) := by
      simp [Engine.query, SearchRequest.text?, hblank]
    have hcode : (SearchQuery.ofText e.sources (trim query)).isCode = isCodeQuery query := by
      rw [SearchQuery.ofText_isCode, analyze_isCode, isCodeQuery_trim]
    rw [Engine.SendsStem, Engine.clauses, htext, Plan.clauses, ClauseInputs.sends_iff]
    refine and_congr_left' ?_
    simp only [ClauseInputs.isPresent, SearchQuery.stemmedNouns_ofText, hcode]
    by_cases hstem : HasStem e.sources query
    · have hsome : (stemQuery e.sources.stoplist query).stemmed ≠ "" := by
        intro hempty
        have hlong := hstem.2.2
        rw [hempty] at hlong
        exact absurd hlong (by decide)
      simp [hstem, hstem.1.1, isBlank_stemmed hsome]
    · simp [hstem]

variable {p q : String}

/-- A query that is too short to be stemmed is a single word. -/
theorem minStemLength_le_congr (hwords : words p = words q) :
    minStemLength ≤ (trim p).length ↔ minStemLength ≤ (trim q).length := by
  cases hp : words p with
  | nil =>
      have hq : words q = [] := hwords.symm.trans hp
      rw [(trim_eq_empty_iff p).mpr (words_eq_nil_iff.mp hp),
        (trim_eq_empty_iff q).mpr (words_eq_nil_iff.mp hq)]
  | cons w₁ ws =>
      cases ws with
      | nil => rw [trim_of_words_singleton hp, trim_of_words_singleton (hwords.symm.trans hp)]
      | cons w₂ ws =>
          have hlong {s : String} (hs : words s = w₁ :: w₂ :: ws) :
              minStemLength ≤ (trim s).length :=
            length_of_words ((words_trim s).trans hs)
          exact iff_of_true (hlong hp) (hlong (hwords.symm.trans hp))

/-- Queries with the same words have the same stemmed form and the same nouns. Whether the stemmed
form is used differs only if it is the query in lowercase, and one of the queries has single blanks
and the other one has not; if it does not differ, neither does what is sent. -/
theorem stemQuery_of_words (hwords : words p = words q) :
    (∀ stoplist : Stoplist,
      (stemQuery stoplist p).stemmed = (stemQuery stoplist q).stemmed ∧
      (stemQuery stoplist p).nouns = (stemQuery stoplist q).nouns ∧
      ((stemQuery stoplist p).useful = (stemQuery stoplist q).useful ↔
        (stemQuery stoplist p).stemmed = "" ∨
          (stemQuery stoplist p).stemmed ≠ lowercase (" ".intercalate (words p)) ∨
            (SingleSpaced (trim p) ↔ SingleSpaced (trim q)))) ∧
    ∀ (e : Engine) (r : SearchRequest) (plan : Plan),
      (stemQuery e.sources.stoplist p).useful = (stemQuery e.sources.stoplist q).useful →
        (e.SendsStem { r with query := some p } plan ↔
          e.SendsStem { r with query := some q } plan) := by
  constructor
  · intro stoplist
    obtain ⟨hstemmed, hnouns⟩ := stemQuery_congr stoplist hwords
    refine ⟨hstemmed, hnouns, ?_⟩
    rw [Bool.eq_iff_iff, useful_iff, useful_iff, ← hstemmed, ← hwords]
    generalize (stemQuery stoplist p).stemmed = stemmed
    generalize lowercase (" ".intercalate (words p)) = lower
    by_cases hsome : stemmed = ""
    · simp [hsome]
    · by_cases hnew : stemmed = lower
      · subst hnew
        simp [hsome, not_iff_not]
      · simp [hsome, hnew]
  · intro e r plan huseful
    obtain ⟨hstemmed, -⟩ := stemQuery_congr e.sources.stoplist hwords
    rw [e.sendsStem_iff, e.sendsStem_iff, HasStem, HasStem, huseful, hstemmed,
      isCodeQuery_congr hwords, minStemLength_le_congr hwords]

theorem stemQuery_of_words_of_banks : words "food  banks" = words "food\tbanks" ∧
    (stemQuery .default "food  banks").stemmed = (stemQuery .default "food\tbanks").stemmed ∧
    ((Engine.failing Walk.threeHits).SendsStem
        { SearchRequest.empty with query := some "food  banks" } Engine.queryPlan ↔
      (Engine.failing Walk.threeHits).SendsStem
        { SearchRequest.empty with query := some "food\tbanks" } Engine.queryPlan) := by
  have hwords : words "food  banks" = words "food\tbanks" := by decide +kernel
  obtain ⟨hforms, hclauses⟩ := stemQuery_of_words hwords
  obtain ⟨-, -, hflags⟩ := hforms (Engine.failing Walk.threeHits).sources.stoplist
  have huseful := hflags.mpr (.inr (.inl (by decide +kernel)))
  exact ⟨hwords, (hforms .default).1, hclauses _ SearchRequest.empty Engine.queryPlan huseful⟩

/-- A stem that is the query itself passes for new where the query has a blank too many. -/
theorem exists_spacing_told_apart : ∃ p q, words p = words q ∧
    (stemQuery .default p).useful = true ∧ (stemQuery .default q).useful = false :=
  ⟨"food  bank", "food bank", by decide +kernel, by decide +kernel, by decide +kernel⟩

end HybridSearch
