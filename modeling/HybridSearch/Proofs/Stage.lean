import HybridSearch.Query.Stage
import Mathlib.Data.List.Sublists

/-!
# What a stage may change

A stage past the detection of codes leaves a context as it is but for its queries and what the
classifier said of it. Of the queries it adds one, or rewrites the first one of the user, or drops
some. Whatever holds of enrichment is a run of such steps.
-/

namespace HybridSearch.Query

/-- Where a query came from. -/
def ProcessedQuery.label (q : ProcessedQuery) : QueryType × String := (q.type, q.source)

def Sources.withClassifier (s : Sources) (classifier : Option Classifier) (patience : Nat) :
    Sources :=
  { s with classifier := classifier, patience := patience }

def Context.withFeatures (c : Context) (features : List Feature) : Context :=
  { c with features := features }

namespace Context

variable (c : Context) (features : List Feature)

@[simp]
theorem withFeatures_query : (c.withFeatures features).query = c.query := rfl

@[simp]
theorem withFeatures_has (f : Feature) : (c.withFeatures features).has f = features.contains f :=
  rfl

theorem ofQuery_has (query : String) (f : Feature) :
    (ofQuery query features).has f = features.contains f := rfl

theorem ofQuery_query (query : String) : (ofQuery query features).query = Text.trim query := rfl

end Context

theorem detectCode_has (c : Context) (f : Feature) : (detectCode c).has f = c.has f := rfl

theorem detectCode_query (c : Context) : (detectCode c).query = c.query := rfl

theorem detectCode_isCode (c : Context) : (detectCode c).isCode = isCode c.query := rfl

theorem detectCode_withFeatures (c : Context) (features : List Feature) :
    detectCode (c.withFeatures features) = (detectCode c).withFeatures features := rfl

namespace Stage

variable {c : Context} {stage : Stage}

theorem step_codeDetection (s : Sources) (c : Context) : step s c .codeDetection = detectCode c :=
  rfl

/-- The label of the query that a stage may add. -/
def adds : Stage → Option (QueryType × String)
  | codeDetection | genericNounFilter => none
  | stemming => some (.user, "stemmed")
  | synonymExpansion => some (.synonym, "synonyms")
  | intentClassification => some (.intent, "classifier")

/-- What a stage does with the queries of a context. A user query is rewritten only where the
queries are merged, and only there a stem or synonyms have no query of their own. -/
inductive Edits (c : Context) (stage : Stage) : List ProcessedQuery → Prop where
  | keep : Edits c stage c.processed
  | add {q : ProcessedQuery} : stage.adds = some q.label → c.has .dualQuery ∨ q.type = .intent →
      Edits c stage (c.processed ++ [q])
  | rewrite {f : ProcessedQuery → ProcessedQuery} : c.has .dualQuery = false →
      (∀ q, (f q).type = q.type ∧ ((f q).source = q.source ∨ (f q).source = "stemmed")) →
      Edits c stage (Context.modifyUserQuery f c.processed)
  | drop (p : ProcessedQuery → Bool) : Edits c stage (c.processed.filter p)

theorem edits_addStem (stoplist : Language.Stoplist) (c : Context) :
    Edits c .stemming (addStem stoplist c).processed := by
  simp only [addStem]
  split_ifs with huseless hdual
  · exact .keep
  · exact .add rfl (.inl hdual)
  · refine .rewrite (Bool.eq_false_iff.mpr hdual) fun q => ?_
    split_ifs
    · exact ⟨rfl, .inl rfl⟩
    · exact ⟨rfl, .inr rfl⟩

theorem edits_expandSynonyms (find : String → List String) (c : Context) :
    Edits c .synonymExpansion (expandSynonyms find c).processed := by
  simp only [expandSynonyms]
  split_ifs with hnone hdual
  · exact .keep
  · exact .add rfl (.inl hdual)
  · exact .rewrite (Bool.eq_false_iff.mpr hdual) fun q => ⟨rfl, .inl rfl⟩

theorem edits_classifyIntent (s : Sources) (c : Context) :
    Edits c .intentClassification (classifyIntent s c).processed := by
  simp only [classifyIntent]
  split
  · exact .keep
  · split
    · exact .keep
    · rename_i classification _
      simp only [addIntent]
      generalize (if classification.lowInformation then [] else _) = terms
      split_ifs
      · exact .keep
      · exact .add rfl (.inr rfl)

theorem addStem_eq (stoplist : Language.Stoplist) (c : Context) :
    addStem stoplist c = { c with processed := (addStem stoplist c).processed } := by
  simp only [addStem]
  split_ifs <;> rfl

theorem expandSynonyms_eq (find : String → List String) (c : Context) :
    expandSynonyms find c = { c with processed := (expandSynonyms find c).processed } := by
  simp only [expandSynonyms]
  split_ifs <;> rfl

theorem classifyIntent_eq (s : Sources) (c : Context) : classifyIntent s c = { c with
    processed := (classifyIntent s c).processed
    classification := (classifyIntent s c).classification } := by
  simp only [classifyIntent, addIntent]
  split
  · rfl
  · split
    · rfl
    · split_ifs <;> rfl

theorem edits_step (s : Sources) (c : Context) (hstage : stage ≠ .codeDetection) :
    Edits c stage (step s c stage).processed := by
  rw [step]
  split_ifs
  · cases stage with
    | codeDetection => exact absurd rfl hstage
    | stemming => exact edits_addStem s.stoplist c
    | synonymExpansion => exact edits_expandSynonyms s.synonyms c
    | intentClassification => exact edits_classifyIntent s c
    | genericNounFilter => exact .drop _
  · exact .keep

/-- Whether a query is a code, and what is searched for it, is settled once. -/
theorem step_eq (s : Sources) (c : Context) (hstage : stage ≠ .codeDetection) :
    step s c stage = { c with
      processed := (step s c stage).processed
      classification := (step s c stage).classification } := by
  rw [step]
  split_ifs
  · cases stage with
    | codeDetection => exact absurd rfl hstage
    | stemming => rw [run, addStem_eq]
    | synonymExpansion => rw [run, expandSynonyms_eq]
    | intentClassification => exact classifyIntent_eq s c
    | genericNounFilter => rfl
  · rfl

@[simp]
theorem step_features (s : Sources) (c : Context) (stage : Stage) :
    (step s c stage).features = c.features := by
  by_cases hstage : stage = .codeDetection
  · subst hstage
    rfl
  · rw [step_eq s c hstage]

@[simp]
theorem step_has (s : Sources) (c : Context) (stage : Stage) (f : Feature) :
    (step s c stage).has f = c.has f := by
  rw [Context.has, Context.has, step_features]

@[simp]
theorem step_query (s : Sources) (c : Context) (stage : Stage) :
    (step s c stage).query = c.query := by
  by_cases hstage : stage = .codeDetection
  · subst hstage
    rfl
  · rw [step_eq s c hstage]

theorem step_classification (s : Sources) (c : Context) (hstage : stage ≠ .intentClassification) :
    (step s c stage).classification = c.classification := by
  rw [step]
  split_ifs
  · cases stage with
    | codeDetection => rfl
    | stemming => rw [run, addStem_eq]
    | synonymExpansion => rw [run, expandSynonyms_eq]
    | intentClassification => exact absurd rfl hstage
    | genericNounFilter => rfl
  · rfl

/-- Only the stage that asks the classifier depends on it. -/
theorem step_withClassifier (s : Sources) (c : Context) (classifier : Option Classifier)
    (patience : Nat) (hstage : stage ≠ .intentClassification) :
    step (s.withClassifier classifier patience) c stage = step s c stage := by
  cases stage with
  | codeDetection => rfl
  | stemming => rfl
  | synonymExpansion => rfl
  | intentClassification => exact absurd rfl hstage
  | genericNounFilter => rfl

section

variable {features : List Feature}

theorem addStem_withFeatures (stoplist : Language.Stoplist)
    (hdual : (c.withFeatures features).has .dualQuery = c.has .dualQuery) :
    addStem stoplist (c.withFeatures features) = (addStem stoplist c).withFeatures features := by
  simp only [addStem, hdual]
  rw [Context.withFeatures_query]
  generalize Language.stemQuery stoplist c.query = q
  split_ifs <;> rfl

theorem expandSynonyms_withFeatures (find : String → List String)
    (hdual : (c.withFeatures features).has .dualQuery = c.has .dualQuery) :
    expandSynonyms find (c.withFeatures features)
      = (expandSynonyms find c).withFeatures features := by
  have hknown (nouns : List String) : knownWords (c.withFeatures features) nouns
      = knownWords c nouns := rfl
  simp only [expandSynonyms, hdual, hknown]
  rw [Context.withFeatures_query]
  generalize newSynonyms find (Language.extractNouns c.query) _ = added
  split_ifs <;> rfl

variable (hsame : ∀ f, f ≠ .intentClassification → (c.withFeatures features).has f = c.has f)

include hsame

theorem applies_withFeatures (s : Sources) (hstage : stage ≠ .intentClassification) :
    applies s (c.withFeatures features) stage = applies s c stage := by
  cases stage with
  | codeDetection => rfl
  | stemming =>
      simp only [applies, hsame .stemming (by decide)]
      rfl
  | synonymExpansion =>
      simp only [applies, hsame .synonymExpansion (by decide)]
      rfl
  | intentClassification => exact absurd rfl hstage
  | genericNounFilter => exact hsame .genericNounFilter (by decide)

/-- Whether classification is wanted matters to no other stage. -/
theorem step_withFeatures (s : Sources) (hstage : stage ≠ .intentClassification) :
    step s (c.withFeatures features) stage = (step s c stage).withFeatures features := by
  have hdual : (c.withFeatures features).has .dualQuery = c.has .dualQuery :=
    hsame .dualQuery (by decide)
  have hrun : run s (c.withFeatures features) stage = (run s c stage).withFeatures features := by
    cases stage with
    | codeDetection => rfl
    | stemming => simp only [run, addStem_withFeatures s.stoplist hdual]
    | synonymExpansion => simp only [run, expandSynonyms_withFeatures s.synonyms hdual]
    | intentClassification => exact absurd rfl hstage
    | genericNounFilter => rfl
  rw [step, step, applies_withFeatures hsame s hstage, hrun]
  split_ifs
  · rfl
  · rfl

end

end Stage

section Runs

variable (s : Sources)

theorem runStages_cons (stage : Stage) (stages : List Stage) (c : Context) :
    runStages s (stage :: stages) c = runStages s stages (stage.step s c) := rfl

theorem runStages_append (stages stages' : List Stage) (c : Context) :
    runStages s (stages ++ stages') c = runStages s stages' (runStages s stages c) :=
  List.foldl_append

@[simp]
theorem runStages_features (stages : List Stage) (c : Context) :
    (runStages s stages c).features = c.features := by
  induction stages generalizing c with
  | nil => rfl
  | cons stage stages ih =>
      rw [runStages_cons, ih, Stage.step_features]

theorem runStages_has (stages : List Stage) (c : Context) (f : Feature) :
    (runStages s stages c).has f = c.has f := by
  rw [Context.has, Context.has, runStages_features]

theorem runStages_query (stages : List Stage) (c : Context) :
    (runStages s stages c).query = c.query := by
  induction stages generalizing c with
  | nil => rfl
  | cons stage stages ih =>
      rw [runStages_cons, ih, Stage.step_query]

theorem runStages_isCode {stages : List Stage} (hstages : .codeDetection ∉ stages) (c : Context) :
    (runStages s stages c).isCode = c.isCode := by
  induction stages generalizing c with
  | nil => rfl
  | cons stage stages ih =>
      rw [List.mem_cons, not_or] at hstages
      rw [runStages_cons, ih hstages.2, Stage.step_eq s c (Ne.symm hstages.1)]

theorem runStages_classification {stages : List Stage} (hstages : .intentClassification ∉ stages)
    (c : Context) : (runStages s stages c).classification = c.classification := by
  induction stages generalizing c with
  | nil => rfl
  | cons stage stages ih =>
      rw [List.mem_cons, not_or] at hstages
      rw [runStages_cons, ih hstages.2, Stage.step_classification s c (Ne.symm hstages.1)]

theorem runStages_withClassifier {stages : List Stage} (hstages : .intentClassification ∉ stages)
    (c : Context) (classifier : Option Classifier) (patience : Nat) :
    runStages (s.withClassifier classifier patience) stages c = runStages s stages c := by
  induction stages generalizing c with
  | nil => rfl
  | cons stage stages ih =>
      rw [List.mem_cons, not_or] at hstages
      rw [runStages_cons, runStages_cons, ih hstages.2,
        Stage.step_withClassifier s c classifier patience (Ne.symm hstages.1)]

theorem runStages_withFeatures {stages : List Stage} (hstages : .intentClassification ∉ stages)
    {c : Context} {features : List Feature}
    (hsame : ∀ f, f ≠ .intentClassification → (c.withFeatures features).has f = c.has f) :
    runStages s stages (c.withFeatures features) = (runStages s stages c).withFeatures features := by
  induction stages generalizing c with
  | nil => rfl
  | cons stage stages ih =>
      rw [List.mem_cons, not_or] at hstages
      rw [runStages_cons, runStages_cons, Stage.step_withFeatures hsame s (Ne.symm hstages.1)]
      apply ih hstages.2
      intro f hf
      rw [Stage.step_has]
      exact hsame f hf

end Runs

end HybridSearch.Query
