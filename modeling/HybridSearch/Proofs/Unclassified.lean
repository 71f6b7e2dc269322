import HybridSearch.Proofs.Enrichment
import HybridSearch.Proofs.Outage

/-!
# Enrichment without a classifier

One stage asks the classifier, and nothing that comes after reads what it answered but the query
that it led to. So whatever keeps that stage from learning anything leaves the same queries: that
there is no classifier, that it is lost, that the request gave it up, or that all it says is that
the query is low on information.
-/

namespace HybridSearch.Query

open HybridSearch.Text

def Sources.unclassified (s : Sources) : Sources := s.withClassifier none s.patience

namespace Stage

variable {s : Sources} {c : Context} {classifier : Classifier}

theorem step_unclassified (s : Sources) (c : Context) :
    step s.unclassified c .intentClassification = c := by
  rw [step, if_neg]
  simp [applies, Sources.unclassified, Sources.withClassifier]

theorem step_of_given_up (hoff : c.has .intentClassification = false) :
    step s c .intentClassification = c := by
  rw [step, if_neg]
  simp [applies, hoff]

theorem step_of_isLost (hclassifier : s.classifier = some classifier)
    (hlost : (classifier c.query).IsLost s.patience) : step s c .intentClassification = c := by
  have hnone := Attempt.within_eq_none_iff.mpr hlost
  have hrun : run s c .intentClassification = c := by
    simp only [run, classifyIntent, hclassifier, hnone]
  rw [step, hrun, ite_self]

theorem step_of_lowInformation (hclassifier : s.classifier = some classifier)
    {classification : Classification} {delay : Nat}
    (hanswer : classifier c.query = ⟨.ok classification, delay⟩) (htime : delay ≤ s.patience)
    (hlow : classification.lowInformation) : step s c .intentClassification =
      if c.has .intentClassification && intentApplicable c.isCode false c.query
      then { c with classification := some classification } else c := by
  have hwithin : (classifier c.query).within s.patience = some classification := by
    rw [hanswer, Attempt.within, if_neg (Nat.not_lt.mpr htime)]
    rfl
  have hrun : run s c .intentClassification
      = { c with classification := some classification } := by
    simp only [run, classifyIntent, hclassifier, hwithin, addIntent, hlow, if_true, List.isEmpty_nil]
  rw [step, hrun, applies, hclassifier, Option.isSome_some, Bool.and_true]

theorem step_genericNounFilter_withClassification (s : Sources) (c : Context)
    (classification : Option Classification) :
    step s { c with classification := classification } .genericNounFilter =
      { step s c .genericNounFilter with classification := classification } := by
  have happlies : applies s { c with classification := classification } .genericNounFilter
      = applies s c .genericNounFilter := rfl
  rw [step, step, happlies]
  split_ifs
  · rfl
  · rfl

end Stage

section

variable (s : Sources) (version : Version) (query : String) (disableIntent : Bool)

/-- What the later versions have gathered when it comes to the classifier. -/
def gathered : Context :=
  runStages s [.stemming, .synonymExpansion]
    (detectCode (.ofQuery query (version.enabled disableIntent)))

theorem gathered_query : (gathered s version query disableIntent).query = trim query := by
  rw [gathered, runStages_query, detectCode_query, Context.ofQuery_query]

theorem gathered_isCode :
    (gathered s version query disableIntent).isCode = isCodeQuery query := by
  rw [gathered, runStages_isCode s (by decide), detectCode_isCode, Context.ofQuery_query,
    isCodeQuery]

theorem gathered_has (f : Feature) : (gathered s version query disableIntent).has f
    = (version.enabled disableIntent).contains f := by
  rw [gathered, runStages_has, detectCode_has, Context.ofQuery_has]

theorem gathered_unclassified : gathered s.unclassified version query disableIntent
    = gathered s version query disableIntent :=
  runStages_withClassifier s (by decide) _ _ _

theorem gathered_true : gathered s version query true
    = (gathered s version query false).withFeatures (version.enabled true) := by
  have hsame : ∀ f, f ≠ .intentClassification →
      ((detectCode (.ofQuery query (version.enabled false))).withFeatures
        (version.enabled true)).has f
      = (detectCode (.ofQuery query (version.enabled false))).has f := by
    intro f hf
    rw [Context.withFeatures_has, detectCode_has, Context.ofQuery_has, contains_enabled hf,
      contains_enabled hf]
  have hstart : Context.ofQuery query (version.enabled true)
      = (Context.ofQuery query (version.enabled false)).withFeatures (version.enabled true) := rfl
  rw [gathered, gathered, hstart, detectCode_withFeatures,
    runStages_withFeatures s (by decide) hsame]

theorem gathered_classification :
    (gathered s version query disableIntent).classification = none := by
  rw [gathered, runStages_classification s (by decide)]
  rfl

theorem enrich_v1 : enrich s .v1 query disableIntent = detectCode (.ofQuery query []) := by
  rw [enrich, Version.stages, runStages_cons, Stage.step_codeDetection]
  cases disableIntent <;> rfl

section

variable {version} (hversion : version ≠ .v1)

include hversion

theorem enrich_eq_step : enrich s version query disableIntent =
    Stage.step s (Stage.step s (gathered s version query disableIntent) .intentClassification)
      .genericNounFilter := by
  rw [enrich_eq hversion]
  rfl

theorem enrich_unclassified_eq : enrich s.unclassified version query disableIntent =
    Stage.step s (gathered s version query disableIntent) .genericNounFilter := by
  rw [enrich_eq_step s.unclassified query disableIntent hversion, Stage.step_unclassified,
    gathered_unclassified, Sources.unclassified, Stage.step_withClassifier s _ none _ (by decide)]

theorem enrich_of_isLost {classifier : Classifier} (hclassifier : s.classifier = some classifier)
    (hlost : (classifier (trim query)).IsLost s.patience) :
    enrich s version query disableIntent = enrich s.unclassified version query disableIntent := by
  have hsilent := Stage.step_of_isLost (c := gathered s version query disableIntent) hclassifier
    (by rwa [gathered_query])
  rw [enrich_eq_step s query disableIntent hversion, hsilent,
    enrich_unclassified_eq s query disableIntent hversion]

theorem enrich_true : enrich s version query true
    = (enrich s.unclassified version query false).withFeatures (version.enabled true) := by
  have hoff : (gathered s version query true).has .intentClassification = false := by
    rw [gathered_has, Version.enabled, if_pos rfl]
    simp
  have hsame : ∀ f, f ≠ .intentClassification →
      ((gathered s version query false).withFeatures (version.enabled true)).has f
        = (gathered s version query false).has f := by
    intro f hf
    rw [Context.withFeatures_has, gathered_has, contains_enabled hf, contains_enabled hf]
  rw [enrich_eq_step s query true hversion, Stage.step_of_given_up hoff, gathered_true,
    Stage.step_withFeatures hsame s (by decide), ← enrich_unclassified_eq s query false hversion]

theorem enrich_of_lowInformation {classifier : Classifier}
    (hclassifier : s.classifier = some classifier) {classification : Classification} {delay : Nat}
    (hanswer : classifier (trim query) = ⟨.ok classification, delay⟩) (htime : delay ≤ s.patience)
    (hlow : classification.lowInformation) :
    enrich s version query false = { enrich s.unclassified version query false with
      classification := if intentApplicable (isCodeQuery query) false (trim query)
        then some classification else none } := by
  have hstep := Stage.step_of_lowInformation (c := gathered s version query false) hclassifier
    (by rwa [gathered_query]) htime hlow
  have hon : (version.enabled false).contains .intentClassification := by
    cases version with
    | v1 => exact absurd rfl hversion
    | v2 => rfl
    | v3 => rfl
  have hasked : ((gathered s version query false).has .intentClassification &&
        intentApplicable (gathered s version query false).isCode false
          (gathered s version query false).query)
      = intentApplicable (isCodeQuery query) false (trim query) := by
    rw [gathered_has, hon, gathered_isCode, gathered_query, Bool.true_and]
  have hnone := gathered_classification s version query false
  rw [hasked] at hstep
  rw [enrich_eq_step s query false hversion, hstep, enrich_unclassified_eq s query false hversion,
    ← Stage.step_genericNounFilter_withClassification]
  by_cases happlicable : intentApplicable (isCodeQuery query) false (trim query)
  · rw [if_pos happlicable, if_pos happlicable]
  · rw [if_neg happlicable, if_neg happlicable, ← hnone]

end

end

/-- A classifier that fails or is late, a classification that is given up and one that is low on
information leave what enrichment finds without a classifier. They leave the features and the
classification, if one was asked for, as the only trace of themselves. -/
theorem enrich_unclassified (s : Sources) (version : Version) (query : String) :
    (∀ classifier disableIntent, s.classifier = some classifier →
      (classifier (trim query)).IsLost s.patience →
      enrich s version query disableIntent = enrich s.unclassified version query disableIntent) ∧
    enrich s version query true = (enrich s.unclassified version query false).withFeatures
      (version.features.filter (· ≠ .intentClassification)) ∧
    ∀ classifier classification delay, s.classifier = some classifier →
      classifier (trim query) = ⟨.ok classification, delay⟩ → delay ≤ s.patience →
      classification.lowInformation →
      enrich s version query false = { enrich s.unclassified version query false with
        classification :=
          if version ≠ .v1 ∧ intentApplicable (isCodeQuery query) false (trim query)
          then some classification else none } := by
  -- The first version stops short of the classifier.
  by_cases hversion : version = .v1
  · subst hversion
    refine ⟨?_, ?_, ?_⟩
    · intro classifier disableIntent _ _
      rw [enrich_v1, enrich_v1]
    · rw [enrich_v1, enrich_v1, ← detectCode_withFeatures]
      rfl
    · intro classifier classification delay _ _ _ _
      have hnone : (detectCode (.ofQuery query [])).classification = none := rfl
      rw [enrich_v1, enrich_v1, if_neg (by simp), ← hnone]
  · refine ⟨?_, enrich_true s query hversion, ?_⟩
    · intro classifier disableIntent hclassifier hlost
      exact enrich_of_isLost s query disableIntent hversion hclassifier hlost
    · intro classifier classification delay hclassifier hanswer htime hlow
      rw [enrich_of_lowInformation s query hversion hclassifier hanswer htime hlow]
      simp only [Ne, hversion, not_false_eq_true, true_and]

theorem enrich_unclassified_of_rent :
    let offline := rentSources.withClassifier (some fun _ => .atOnce (.error "offline")) 1000
    let vague := rentSources.withClassifier
      (some fun _ => .atOnce (.ok ⟨"rent assistance", 0.1, [], true, []⟩)) 1000
    enrich offline .v3 " help with rent " false
        = enrich offline.unclassified .v3 " help with rent " false ∧
      (enrich vague .v3 " help with rent " false).classification
        = some ⟨"rent assistance", 0.1, [], true, []⟩ := by
  intro offline vague
  obtain ⟨hlost, -, -⟩ := enrich_unclassified offline .v3 " help with rent "
  obtain ⟨-, -, hlow⟩ := enrich_unclassified vague .v3 " help with rent "
  have hasked : intentApplicable (isCodeQuery " help with rent ") false
      (trim " help with rent ") = true := by
    decide +kernel
  have htime : 0 ≤ vague.patience := by decide
  refine ⟨hlost _ false rfl (.inr ⟨"offline", rfl⟩), ?_⟩
  rw [hlow _ ⟨"rent assistance", 0.1, [], true, []⟩ 0 rfl rfl htime rfl]
  simp [hasked]

end HybridSearch.Query
