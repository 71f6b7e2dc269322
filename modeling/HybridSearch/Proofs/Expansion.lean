import HybridSearch.Proofs.Distinct
import HybridSearch.Proofs.Enrichment
import HybridSearch.Proofs.Json
import HybridSearch.Proofs.Spacing

/-!
# Synonyms of the nouns of a query

The synonyms of all nouns are gathered one noun after another, and those that the query has already
are left out. What it has depends on its version: where the stem took the place of the typed query
the words of that one are forgotten, and where both stand side by side they are not.
-/

namespace HybridSearch.Query

open HybridSearch.Language HybridSearch.Text

/-- The synonyms that are new to a context. -/
def addedSynonyms (find : String → List String) (c : Context) : List String :=
  newSynonyms find (extractNouns c.query) (knownWords c (extractNouns c.query))

/-- Whether a text is a noun of the typed query, or a word of one of the queries so far, but for its
case. -/
def IsKnown (c : Context) (text : String) : Prop :=
  (∃ noun ∈ extractNouns c.query, lowercase noun = lowercase text) ∨
    ∃ q ∈ c.processed, ∃ w ∈ words q.text, lowercase w = lowercase text

/-- A context with some synonyms added to it. They make one query at the end if each source has a
query of its own, and else a longer first query of the user, if there is one. -/
inductive Expanded (added : List String) (c : Context) : Context → Prop where
  | none : added = [] → Expanded added c c
  | own : added ≠ [] → c.has .dualQuery →
      Expanded added c
        { c with processed := c.processed ++ [⟨" ".intercalate added, .synonym, "synonyms"⟩] }
  | merged {before after : List ProcessedQuery} {q : ProcessedQuery} : added ≠ [] →
      c.has .dualQuery = false → c.processed = before ++ q :: after →
      (∀ p ∈ before, p.type ≠ .user) → q.type = .user →
      Expanded added c { c with
        processed := before ++ { q with text := q.text ++ " " ++ " ".intercalate added } :: after }
  | lost : added ≠ [] → c.has .dualQuery = false → (∀ q ∈ c.processed, q.type ≠ .user) →
      Expanded added c c

/-! ### The first query of the user -/

section

variable {f : ProcessedQuery → ProcessedQuery} {before after : List ProcessedQuery}
  {q : ProcessedQuery}

theorem modifyUserQuery_append (hbefore : ∀ p ∈ before, p.type ≠ .user) (hq : q.type = .user) :
    Context.modifyUserQuery f (before ++ q :: after) = before ++ f q :: after := by
  induction before with
  | nil => exact if_pos hq
  | cons p before ih =>
      rw [List.forall_mem_cons] at hbefore
      rw [List.cons_append, Context.modifyUserQuery, if_neg hbefore.1, ih hbefore.2,
        List.cons_append]

theorem expanded_expandSynonyms (find : String → List String) (c : Context) :
    Expanded (addedSynonyms find c) c (expandSynonyms find c) := by
  have hadded : newSynonyms find (extractNouns c.query) (knownWords c (extractNouns c.query))
      = addedSynonyms find c := rfl
  simp only [expandSynonyms, hadded]
  generalize addedSynonyms find c = added
  split_ifs with hnone hdual
  · exact .none (List.isEmpty_iff.mp hnone)
  · exact .own (mt List.isEmpty_iff.mpr hnone) hdual
  · have hsome : added ≠ [] := mt List.isEmpty_iff.mpr hnone
    have hmerged : c.has .dualQuery = false := Bool.eq_false_iff.mpr hdual
    by_cases huser : ∃ q ∈ c.processed, q.type = .user
    · obtain ⟨before, q, after, hsplit, hq, hbefore⟩ := exists_first huser
      rw [hsplit, modifyUserQuery_append hbefore hq]
      exact .merged hsome hmerged hsplit hbefore hq
    · have hall : ∀ q ∈ c.processed, q.type ≠ .user := fun q hq h => huser ⟨q, hq, h⟩
      rw [modifyUserQuery_of_no_user hall]
      exact .lost hsome hmerged hall

end

/-! ### New synonyms -/

section

variable {find : String → List String} {nouns known : List String} {c : Context}
  {text noun word synonym : String}

theorem newSynonyms_eq : newSynonyms find nouns known =
    (nouns.flatMap find).eraseDups.filter fun synonym => !known.contains synonym :=
  eraseDups_filter _ _

theorem mem_newSynonyms_iff : synonym ∈ newSynonyms find nouns known ↔
    (∃ noun ∈ nouns, synonym ∈ find noun) ∧ synonym ∉ known := by
  rw [newSynonyms, List.mem_eraseDups, List.mem_filter, List.mem_flatMap]
  simp

theorem mem_knownWords_iff : word ∈ knownWords c nouns ↔
    (∃ text ∈ c.processed.map (·.text), ∃ w ∈ words text, lowercase w = word) ∨ word ∈ nouns := by
  simp [knownWords]

theorem lowercase_of_mem_extractNouns (hnoun : noun ∈ extractNouns text) :
    lowercase noun = noun := by
  obtain ⟨-, -, token, -, rfl, -⟩ := mem_extractNouns hnoun
  exact lowercase_lowercase _

theorem lowercase_of_mem_find {entries : List (String × List String)}
    (hsynonym : synonym ∈ (SynonymMap.ofEntries entries).find word) :
    lowercase synonym = synonym := by
  rw [SynonymMap.find] at hsynonym
  cases hfound : (SynonymMap.ofEntries entries).entries.lookup (SynonymMap.normalize word) with
  | none =>
      rw [hfound] at hsynonym
      cases hsynonym
  | some synonyms =>
      rw [hfound] at hsynonym
      obtain ⟨before, after, hsplit, -⟩ := List.lookup_eq_some_iff.mp hfound
      have hentry : (SynonymMap.normalize word, synonyms) ∈
          (SynonymMap.ofEntries entries).entries := by
        rw [hsplit]
        exact List.mem_append_right _ List.mem_cons_self
      obtain ⟨entry, -, heq⟩ := List.mem_map.mp (mem_of_mem_sortMembers hentry)
      obtain ⟨-, rfl⟩ := Prod.mk.inj heq
      obtain ⟨written, -, rfl⟩ := List.mem_map.mp (List.mem_filter.mp hsynonym).1
      exact lowercase_lowercase _

theorem isKnown_iff (hlower : lowercase synonym = synonym) :
    IsKnown c synonym ↔ synonym ∈ knownWords c (extractNouns c.query) := by
  have hnouns : (∃ noun ∈ extractNouns c.query, lowercase noun = synonym) ↔
      synonym ∈ extractNouns c.query := by
    refine ⟨?_, fun hnoun => ⟨synonym, hnoun, hlower⟩⟩
    rintro ⟨noun, hnoun, hsame⟩
    rwa [← hsame, lowercase_of_mem_extractNouns hnoun]
  rw [mem_knownWords_iff, IsKnown, hlower, hnouns, or_comm]
  simp

end

/-! ### Two versions -/

/-- What a version has made of a query when it comes to synonyms. -/
def beforeSynonyms (s : Sources) (version : Version) (query : String) (disableIntent : Bool) :
    Context :=
  runStages s (version.stages.takeWhile (· ≠ .synonymExpansion))
    (.ofQuery query (version.enabled disableIntent))

section

variable {s : Sources} {version : Version} {query : String} {disableIntent : Bool}

theorem texts_addStem {c : Context} (stoplist : Stoplist) {source : String}
    (hstart : c.processed = [⟨c.query, .user, source⟩]) :
    (addStem stoplist c).processed.map (·.text) =
      if (stemQuery stoplist c.query).useful ∧
          minStemLength ≤ (stemQuery stoplist c.query).stemmed.length then
        if c.has .dualQuery then [c.query, (stemQuery stoplist c.query).stemmed]
        else [(stemQuery stoplist c.query).stemmed]
      else [c.query] := by
  rw [addStem]
  generalize stemQuery stoplist c.query = stem
  have hmerged : (Context.modifyUserQuery (fun user =>
      if user.text = stem.stemmed then user
      else { user with text := stem.stemmed, source := "stemmed" }) c.processed).map (·.text)
        = [stem.stemmed] := by
    rw [hstart, Context.modifyUserQuery, if_pos rfl]
    by_cases hsame : c.query = stem.stemmed
    · simp [hsame]
    · simp [hsame]
  cases huseful : stem.useful with
  | false => simp [hstart]
  | true =>
      by_cases hshort : stem.stemmed.length < minStemLength
      · simp [hshort, Nat.not_le.mpr hshort, hstart]
      · cases hdual : c.has .dualQuery with
        | true => simp [hshort, Nat.not_lt.mp hshort, Context.append, hstart]
        | false => simpa [hshort, Nat.not_lt.mp hshort] using hmerged

theorem texts_step {c : Context} {source : String} (hstem : c.has .stemming)
    (hstart : c.processed = [⟨c.query, .user, source⟩]) :
    (Stage.stemming.step s c).processed.map (·.text) =
      if (c.isCode = false ∧ minStemLength ≤ c.query.length) ∧
          (stemQuery s.stoplist c.query).useful ∧
            minStemLength ≤ (stemQuery s.stoplist c.query).stemmed.length then
        if c.has .dualQuery then [c.query, (stemQuery s.stoplist c.query).stemmed]
        else [(stemQuery s.stoplist c.query).stemmed]
      else [c.query] := by
  have happlies := applies_stemming_iff (s := s) hstem
  rw [Stage.step]
  by_cases hcase : c.isCode = false ∧ minStemLength ≤ c.query.length
  · rw [if_pos (happlies.mpr hcase), Stage.run, texts_addStem s.stoplist hstart]
    simp only [hcase, true_and]
  · rw [if_neg (mt happlies.mp hcase), hstart, if_neg fun h => hcase h.1]
    rfl

/-- The second version goes on with the stem in the place of the query, the third one with both. -/
theorem texts_beforeSynonyms (hversion : version ≠ .v1) :
    (beforeSynonyms s version query disableIntent).processed.map (·.text) =
      if HasStem s query then
        if version.features.contains .dualQuery then
          [trim query, (stemQuery s.stoplist query).stemmed]
        else [(stemQuery s.stoplist query).stemmed]
      else [trim query] := by
  have hstages : version.stages.takeWhile (· ≠ .synonymExpansion) = [.codeDetection, .stemming] ∧
      version.features.contains .stemming := by
    cases version with
    | v1 => exact absurd rfl hversion
    | v2 => exact ⟨rfl, rfl⟩
    | v3 => exact ⟨rfl, rfl⟩
  have hstem : (detectCode (.ofQuery query (version.enabled disableIntent))).has .stemming :=
    (contains_enabled (by decide)).trans hstages.2
  have hdual : (detectCode (.ofQuery query (version.enabled disableIntent))).has .dualQuery
      = version.features.contains .dualQuery := contains_enabled (by decide)
  have hlast (c : Context) : runStages s [] c = c := rfl
  rw [beforeSynonyms, hstages.1, runStages_cons, Stage.step_codeDetection, runStages_cons, hlast,
    texts_step hstem rfl, hdual, detectCode_isCode, detectCode_query, Context.ofQuery_query,
    stemQuery_trim]
  rfl

theorem beforeSynonyms_query :
    (beforeSynonyms s version query disableIntent).query = trim query := by
  rw [beforeSynonyms, runStages_query, Context.ofQuery_query]

theorem mem_knownWords_v3_iff {nouns : List String} {word : String} :
    word ∈ knownWords (beforeSynonyms s .v3 query disableIntent) nouns ↔
      word ∈ knownWords (beforeSynonyms s .v2 query disableIntent) nouns ∨
        ∃ w ∈ words query, lowercase w = word := by
  rw [mem_knownWords_iff, mem_knownWords_iff, texts_beforeSynonyms (by decide),
    texts_beforeSynonyms (by decide)]
  have hdual : Version.v3.features.contains .dualQuery = true := rfl
  have hmerged : Version.v2.features.contains .dualQuery = false := rfl
  rw [hdual, hmerged]
  by_cases hstem : HasStem s query
  · simp only [hstem, if_true, Bool.false_eq_true, if_false, List.mem_cons, List.not_mem_nil,
      or_false, exists_eq_or_imp, exists_eq_left, words_trim]
    rw [or_assoc, or_comm]
  · simp only [hstem, if_false, List.mem_singleton, exists_eq_left, words_trim]
    exact (or_iff_left_of_imp Or.inl).symm

/-- The third version leaves out the words of the typed query too. -/
theorem addedSynonyms_v3 {find : String → List String}
    (hfind : ∀ word, ∀ synonym ∈ find word, lowercase synonym = synonym) :
    addedSynonyms find (beforeSynonyms s .v3 query disableIntent) =
      (addedSynonyms find (beforeSynonyms s .v2 query disableIntent)).filter
        fun synonym => ∀ w ∈ words query, lowercase w ≠ lowercase synonym := by
  rw [addedSynonyms, addedSynonyms, newSynonyms_eq, newSynonyms_eq, beforeSynonyms_query,
    beforeSynonyms_query, List.filter_filter]
  refine List.filter_congr fun synonym hsynonym => ?_
  obtain ⟨noun, -, hsynonym⟩ := List.mem_flatMap.mp (List.mem_eraseDups.mp hsynonym)
  have hnew (known : List String) : (!known.contains synonym) = decide (synonym ∉ known) := by simp
  rw [hnew, hnew, ← Bool.decide_and, decide_eq_decide, mem_knownWords_v3_iff,
    hfind noun synonym hsynonym, not_or, and_comm]
  simp

end

/-- The synonyms added are those of the nouns that the query does not have already, each once, in
the order of the nouns and of their lists. They are added as one query of their own or to the first
one of the user, and nothing else changes. The third version adds what the second one does, but for
the words of the typed query, which that one has forgotten. -/
theorem expandSynonyms_adds_new (entries : List (String × List String)) :
    (∀ c : Context,
      (addedSynonyms (SynonymMap.ofEntries entries).find c).Nodup ∧
      (∀ synonym, synonym ∈ addedSynonyms (SynonymMap.ofEntries entries).find c ↔
        (∃ noun ∈ extractNouns c.query, synonym ∈ (SynonymMap.ofEntries entries).find noun) ∧
          ¬ IsKnown c synonym) ∧
      (addedSynonyms (SynonymMap.ofEntries entries).find c).Pairwise
        (FirstBefore ((extractNouns c.query).flatMap (SynonymMap.ofEntries entries).find)) ∧
      Expanded (addedSynonyms (SynonymMap.ofEntries entries).find c) c
        (expandSynonyms (SynonymMap.ofEntries entries).find c)) ∧
    ∀ (s : Sources) (query : String) (disableIntent : Bool),
      addedSynonyms (SynonymMap.ofEntries entries).find
          (beforeSynonyms s .v3 query disableIntent) =
        (addedSynonyms (SynonymMap.ofEntries entries).find
          (beforeSynonyms s .v2 query disableIntent)).filter
            fun synonym => ∀ w ∈ words query, lowercase w ≠ lowercase synonym := by
  refine ⟨fun c => ⟨nodup_eraseDups _, fun synonym => ?_, pairwise_eraseDups_filter _ _,
    expanded_expandSynonyms _ c⟩, fun s query disableIntent => ?_⟩
  · rw [addedSynonyms, mem_newSynonyms_iff]
    refine and_congr_right ?_
    rintro ⟨noun, -, hsynonym⟩
    rw [isKnown_iff (lowercase_of_mem_find hsynonym)]
  · exact addedSynonyms_v3 fun word synonym hsynonym => lowercase_of_mem_find hsynonym

/-- Synonyms of a noun, of which one is the noun itself and one a word that stemming changes. -/
def foodSynonyms : SynonymMap :=
  .ofEntries [("Food", ["Groceries", "food", "finding", "groceries"])]

example :
    addedSynonyms foodSynonyms.find
        (beforeSynonyms ⟨⟨[]⟩, fun _ => [], none, 0⟩ .v2 "Finding food" false)
      = ["groceries", "finding"] ∧
    addedSynonyms foodSynonyms.find
        (beforeSynonyms ⟨⟨[]⟩, fun _ => [], none, 0⟩ .v3 "Finding food" false)
      = ["groceries"] := by
  decide +kernel

end HybridSearch.Query
