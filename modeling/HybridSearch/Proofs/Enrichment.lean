import HybridSearch.Proofs.Stage

/-!
# What enrichment makes of a query

Where every source stays a query of its own, the stages add queries behind the typed one, each in
its turn. Where the queries are merged, the stem and the synonyms go into the one user query, and
only what a classification names comes after it. At the end the queries that hold nothing but
generic words are dropped.
-/

namespace HybridSearch.Query

open HybridSearch.Language HybridSearch.Text

variable {s : Sources} {c : Context}

/-! ### Queries of their own -/

theorem Stage.exists_added {stage : Stage} (hdual : c.has .dualQuery)
    (hstage : stage ≠ .codeDetection) : ∃ added,
      (step s c stage).processed.Sublist (c.processed ++ added) ∧
        (added.map ProcessedQuery.label).Sublist stage.adds.toList := by
  have hedits := edits_step s c hstage
  generalize (step s c stage).processed = processed at hedits ⊢
  cases hedits with
  | keep => exact ⟨[], by simp, List.nil_sublist _⟩
  | @add q hadds _ => exact ⟨[q], List.Sublist.refl _, by simp [hadds]⟩
  | rewrite hmerged _ =>
      rw [hdual] at hmerged
      cases hmerged
  | drop p => exact ⟨[], by simp, List.nil_sublist _⟩

theorem runStages_exists_added {stages : List Stage} (hdual : c.has .dualQuery)
    (hstages : .codeDetection ∉ stages) : ∃ added,
      (runStages s stages c).processed.Sublist (c.processed ++ added) ∧
        (added.map ProcessedQuery.label).Sublist (stages.filterMap Stage.adds) := by
  induction stages generalizing c with
  | nil => exact ⟨[], by simp [runStages], List.nil_sublist _⟩
  | cons stage stages ih =>
      rw [List.mem_cons, not_or] at hstages
      obtain ⟨first, hfirst, hlabel⟩ := Stage.exists_added (s := s) hdual (Ne.symm hstages.1)
      obtain ⟨later, hlater, hlabels⟩ := ih (c := stage.step s c) (by simpa using hdual) hstages.2
      refine ⟨first ++ later, ?_, ?_⟩
      · rw [runStages_cons, ← List.append_assoc]
        exact hlater.trans (hfirst.append_right later)
      · have hadds : (stage :: stages).filterMap Stage.adds
            = stage.adds.toList ++ stages.filterMap Stage.adds := by
          cases hstage : stage.adds <;> simp [hstage]
        rw [List.map_append, hadds]
        exact hlabel.append hlabels

/-! ### Merged queries -/

theorem modifyUserQuery_of_no_user {f : ProcessedQuery → ProcessedQuery}
    {queries : List ProcessedQuery} (hnone : ∀ q ∈ queries, q.type ≠ .user) :
    Context.modifyUserQuery f queries = queries := by
  induction queries with
  | nil => rfl
  | cons q queries ih =>
      rw [Context.modifyUserQuery, if_neg (hnone q List.mem_cons_self),
        ih fun q' hq' => hnone q' (List.mem_cons_of_mem q hq')]

theorem exists_label_modifyUserQuery {f : ProcessedQuery → ProcessedQuery}
    (hf : ∀ q, (f q).type = q.type ∧ ((f q).source = q.source ∨ (f q).source = "stemmed"))
    {source : String} {others : List (QueryType × String)} (hothers : ∀ l ∈ others, l.1 ≠ .user)
    {queries : List ProcessedQuery}
    (hqueries : (queries.map ProcessedQuery.label).Sublist ((.user, source) :: others)) :
    ∃ source', (source' = source ∨ source' = "stemmed") ∧
      ((Context.modifyUserQuery f queries).map ProcessedQuery.label).Sublist
        ((.user, source') :: others) := by
  cases queries with
  | nil => exact ⟨source, .inl rfl, List.nil_sublist _⟩
  | cons q queries =>
      rw [List.map_cons, List.cons_sublist_cons'] at hqueries
      rcases hqueries with hothersOnly | ⟨hlabel, hrest⟩
      · refine ⟨source, .inl rfl, ?_⟩
        have hnone : ∀ q' ∈ q :: queries, q'.type ≠ .user := by
          intro q' hq'
          exact hothers q'.label (hothersOnly.subset (List.mem_map_of_mem hq'))
        rw [modifyUserQuery_of_no_user hnone]
        exact hothersOnly.cons _
      · obtain ⟨htype, hsource⟩ := Prod.mk.inj hlabel
        refine ⟨(f q).source, hsource ▸ (hf q).2, ?_⟩
        have hfirst : (f q).label = (.user, (f q).source) := by
          rw [ProcessedQuery.label, (hf q).1, htype]
        rw [Context.modifyUserQuery, if_pos htype, List.map_cons, hfirst]
        exact hrest.cons_cons _

/-- What a stage adds behind the user query when the queries are merged. -/
def Stage.addsMerged (stage : Stage) : Option (QueryType × String) :=
  stage.adds.filter (·.1 = .intent)

theorem Stage.exists_merged {stage : Stage} (hmerged : c.has .dualQuery = false)
    (hstage : stage ≠ .codeDetection) {source : String} {others : List (QueryType × String)}
    (hothers : ∀ l ∈ others, l.1 ≠ .user)
    (hqueries : (c.processed.map ProcessedQuery.label).Sublist ((.user, source) :: others)) :
    ∃ source', (source' = source ∨ source' = "stemmed") ∧
      ((step s c stage).processed.map ProcessedQuery.label).Sublist
        ((.user, source') :: (others ++ stage.addsMerged.toList)) := by
  have hedits := edits_step s c hstage
  generalize (step s c stage).processed = processed at hedits ⊢
  have hmore (source' : String) : ((QueryType.user, source') :: others).Sublist
      ((.user, source') :: (others ++ stage.addsMerged.toList)) :=
    (List.sublist_append_left _ _).cons_cons _
  cases hedits with
  | keep => exact ⟨source, .inl rfl, hqueries.trans (hmore source)⟩
  | @add q hadds howned =>
      refine ⟨source, .inl rfl, ?_⟩
      have hintent : q.type = .intent := howned.resolve_left (by simp [hmerged])
      have hlabel : stage.addsMerged.toList = [q.label] := by
        simp [Stage.addsMerged, hadds, ProcessedQuery.label, hintent]
      rw [List.map_append, hlabel, ← List.cons_append]
      exact hqueries.append_right _
  | rewrite _ hf =>
      obtain ⟨source', hsource, hrewritten⟩ := exists_label_modifyUserQuery hf hothers hqueries
      exact ⟨source', hsource, hrewritten.trans (hmore source')⟩
  | drop p =>
      refine ⟨source, .inl rfl, ?_⟩
      exact ((List.filter_sublist.map _).trans hqueries).trans (hmore source)

theorem runStages_exists_merged {stages : List Stage} (hmerged : c.has .dualQuery = false)
    (hstages : .codeDetection ∉ stages) {source : String} {others : List (QueryType × String)}
    (hothers : ∀ l ∈ others, l.1 ≠ .user)
    (hqueries : (c.processed.map ProcessedQuery.label).Sublist ((.user, source) :: others)) :
    ∃ source', (source' = source ∨ source' = "stemmed") ∧
      ((runStages s stages c).processed.map ProcessedQuery.label).Sublist
        ((.user, source') :: (others ++ stages.filterMap Stage.addsMerged)) := by
  -- A stage may rename the first query and add behind the others, so both are left open.
  induction stages generalizing c source others with
  | nil => exact ⟨source, .inl rfl, by simpa [runStages] using hqueries⟩
  | cons stage stages ih =>
      rw [List.mem_cons, not_or] at hstages
      obtain ⟨source₁, hsource₁, hstep⟩ :=
        Stage.exists_merged (s := s) hmerged (Ne.symm hstages.1) hothers hqueries
      have hothers₁ : ∀ l ∈ others ++ stage.addsMerged.toList, l.1 ≠ .user := by
        intro l hl huser
        rcases List.mem_append.mp hl with hold | hnew
        · exact hothers l hold huser
        · have hintent := (Option.mem_filter_iff.mp (Option.mem_toList.mp hnew)).2
          rw [decide_eq_true_iff, huser] at hintent
          cases hintent
      obtain ⟨source₂, hsource₂, hrun⟩ :=
        ih (c := stage.step s c) (by simpa using hmerged) hstages.2 hothers₁ hstep
      have hadds : (stage :: stages).filterMap Stage.addsMerged
          = stage.addsMerged.toList ++ stages.filterMap Stage.addsMerged := by
        cases hstage : stage.addsMerged <;> simp [hstage]
      refine ⟨source₂, ?_, ?_⟩
      · rcases hsource₂ with rfl | rfl
        · exact hsource₁
        · exact .inr rfl
      · rwa [runStages_cons, hadds, ← List.append_assoc]

/-! ### All stages -/

/-- The features of a version, of which a request may give up the classification. -/
def Version.enabled (version : Version) (disableIntent : Bool) : List Feature :=
  if disableIntent then version.features.filter (· ≠ .intentClassification) else version.features

/-- What the later versions do once codes are told from names. -/
def enriching : List Stage :=
  [.stemming, .synonymExpansion, .intentClassification, .genericNounFilter]

section

variable {version : Version} {query : String} {disableIntent : Bool}

/-- Only the classification can be given up. -/
theorem contains_enabled {f : Feature} (hf : f ≠ .intentClassification) :
    (version.enabled disableIntent).contains f = version.features.contains f := by
  cases disableIntent with
  | false => rfl
  | true => simp [Version.enabled, hf]

theorem enrich_has (f : Feature) : (enrich s version query disableIntent).has f
    = (version.enabled disableIntent).contains f := by
  rw [enrich, runStages_has, Context.ofQuery_has, Version.enabled]

theorem enrich_eq (hversion : version ≠ .v1) : enrich s version query disableIntent
    = runStages s enriching (detectCode (.ofQuery query (version.enabled disableIntent))) := by
  have hstages : version.stages = .codeDetection :: enriching := by
    cases version with
    | v1 => exact absurd rfl hversion
    | v2 => rfl
    | v3 => rfl
  rw [enrich, hstages, runStages_cons, Stage.step_codeDetection, Version.enabled]

theorem isAllGeneric_eq_false_iff {stoplist : Stoplist} {text : String} :
    stoplist.isAllGeneric text = false ↔ ∃ word ∈ words text,
      stoplist.isGeneric (lowercase word) = false ∧
        stoplist.isGeneric (stem (lowercase word)) = false := by
  simp [Stoplist.isAllGeneric, Stoplist.isGenericWord]

/-- Dropping what is generic comes last, whether classification is asked for or not. -/
theorem isAllGeneric_of_mem_enrich (hversion : version ≠ .v1) {q : ProcessedQuery}
    (hq : q ∈ (enrich s version query disableIntent).processed) :
    s.stoplist.isAllGeneric q.text = false := by
  have hhas : (version.enabled disableIntent).contains .genericNounFilter := by
    rw [contains_enabled (by decide)]
    cases version with
    | v1 => exact absurd rfl hversion
    | v2 => rfl
    | v3 => rfl
  have hstages : enriching = [.stemming, .synonymExpansion, .intentClassification] ++
      [.genericNounFilter] := rfl
  rw [enrich_eq hversion, hstages, runStages_append, runStages_cons, Stage.step, if_pos] at hq
  · simpa using (List.mem_filter.mp hq).2
  · rw [Stage.applies, runStages_has]
    exact hhas

end

section

variable (s : Sources) (query : String) (disableIntent : Bool)

theorem exists_added_enrich_v3 : ∃ added,
    (enrich s .v3 query disableIntent).processed.Sublist
        (⟨trim query, .user, "original"⟩ :: added) ∧
      (added.map ProcessedQuery.label).Sublist
        [(.user, "stemmed"), (.synonym, "synonyms"), (.intent, "classifier")] := by
  have hdual : (detectCode (.ofQuery query (Version.v3.enabled disableIntent))).has .dualQuery :=
    contains_enabled (by decide)
  have hlater : .codeDetection ∉ enriching := by decide
  obtain ⟨added, hqueries, hlabels⟩ := runStages_exists_added (s := s) hdual hlater
  rw [← enrich_eq (by decide)] at hqueries
  exact ⟨added, hqueries, hlabels⟩

theorem labels_enrich_v3 :
    ((enrich s .v3 query disableIntent).processed.map ProcessedQuery.label).Sublist
      [(.user, "original"), (.user, "stemmed"), (.synonym, "synonyms"), (.intent, "classifier")] := by
  obtain ⟨added, hqueries, hlabels⟩ := exists_added_enrich_v3 s query disableIntent
  exact (hqueries.map ProcessedQuery.label).trans (hlabels.cons_cons _)

end

/-- The queries that are left of enrichment: the typed one alone; or one of the user and one from
the classification; or one from each source in turn, the typed one as it was. Each has a word that
is not on the stoplist, neither itself nor its stem. -/
theorem processed_enrich (s : Sources) (query : String) (disableIntent : Bool) :
    (enrich s .v1 query disableIntent).processed = [⟨trim query, .user, "original"⟩] ∧
    (∃ source, (source = "original" ∨ source = "stemmed") ∧
      ((enrich s .v2 query disableIntent).processed.map ProcessedQuery.label).Sublist
        [(.user, source), (.intent, "classifier")]) ∧
    ((enrich s .v3 query disableIntent).processed.map ProcessedQuery.label).Sublist
      [(.user, "original"), (.user, "stemmed"), (.synonym, "synonyms"), (.intent, "classifier")] ∧
    (∀ q ∈ (enrich s .v3 query disableIntent).processed,
      q.label = (.user, "original") → q.text = trim query) ∧
    ∀ version, version ≠ .v1 → ∀ q ∈ (enrich s version query disableIntent).processed,
      ∃ word ∈ words q.text, s.stoplist.isGeneric (lowercase word) = false ∧
        s.stoplist.isGeneric (stem (lowercase word)) = false := by
  refine ⟨rfl, ?_, ?_⟩
  · rw [enrich_eq (by decide)]
    have hmerged : (detectCode (.ofQuery query (Version.v2.enabled disableIntent))).has .dualQuery
        = false :=
      contains_enabled (by decide)
    have hnone : ∀ l ∈ ([] : List (QueryType × String)), l.1 ≠ .user := by simp
    exact runStages_exists_merged hmerged (by decide) hnone (List.Sublist.refl _)
  · obtain ⟨added, hqueries, hlabels⟩ := exists_added_enrich_v3 s query disableIntent
    refine ⟨labels_enrich_v3 s query disableIntent, ?_, ?_⟩
    · intro q hq hlabel
      rcases List.mem_cons.mp (hqueries.subset hq) with rfl | hadded
      · rfl
      · have hnew := hlabels.subset (List.mem_map_of_mem hadded)
        rw [hlabel] at hnew
        exact absurd hnew (by decide)
    · intro version hversion q hq
      exact isAllGeneric_eq_false_iff.mp (isAllGeneric_of_mem_enrich hversion hq)

/-- Sources with something to say about rent. -/
def rentSources : Sources where
  stoplist := .ofNouns ["help", "assistance"]
  synonyms := fun word => if word = "rent" then ["housing"] else []
  classifier := some fun _ => .atOnce (.ok ⟨"rent assistance", 0.82, [], false, []⟩)
  patience := 1000

theorem processed_enrich_of_rent :
    (enrich rentSources .v3 " help with rent " false).processed =
      [⟨"help with rent", .user, "original"⟩, ⟨"rent", .user, "stemmed"⟩,
        ⟨"housing", .synonym, "synonyms"⟩, ⟨"rent", .intent, "classifier"⟩] ∧
    "help with rent" = trim " help with rent " ∧
    ∃ word ∈ words "housing", rentSources.stoplist.isGeneric (lowercase word) = false ∧
      rentSources.stoplist.isGeneric (stem (lowercase word)) = false := by
  have hqueries : (enrich rentSources .v3 " help with rent " false).processed =
      [⟨"help with rent", .user, "original"⟩, ⟨"rent", .user, "stemmed"⟩,
        ⟨"housing", .synonym, "synonyms"⟩, ⟨"rent", .intent, "classifier"⟩] := by
    decide +kernel
  obtain ⟨-, -, -, htyped, hspecific⟩ := processed_enrich rentSources " help with rent " false
  rw [hqueries] at htyped
  refine ⟨hqueries, htyped _ List.mem_cons_self rfl, ?_⟩
  exact hspecific .v3 (by decide) ⟨"housing", .synonym, "synonyms"⟩ (by simp [hqueries])

end HybridSearch.Query
