import HybridSearch.Proofs.SuggestPages
import HybridSearch.Proofs.Text

/-!
# What a suggestion is made for

A code goes before a query. It is taken if there is one, and the query if not, and only then is
looked at what is left without the blanks around it. So a code of blanks stands in the way of the
query beside it, and the request is refused as if both were missing.
-/

namespace HybridSearch

open Query

namespace SuggestRequest

def LacksInput (r : SuggestRequest) : Prop :=
  (∀ code, r.code = some code → Text.isBlank code) ∧
    ∀ query, r.query = some query → Text.isBlank query

/-- Whether there is a query to be searched, but behind a code of blanks. -/
def HidesQuery (r : SuggestRequest) : Prop :=
  (∃ code, r.code = some code ∧ Text.isBlank code) ∧
    ∃ query, r.query = some query ∧ ¬ Text.isBlank query

end SuggestRequest

namespace SuggestPlan

variable {r : SuggestRequest}

theorem inputOf_of_code {code : String} (hcode : r.code = some code)
    (hfilled : ¬ Text.isBlank code) : inputOf r = some (Text.trim code) := by
  have hkept : Text.trim code ≠ "" := mt (Text.trim_eq_empty_iff code).mp hfilled
  simp [inputOf, hcode, Option.filter, hkept]

theorem inputOf_of_query {query : String} (hcode : r.code = none) (hquery : r.query = some query)
    (hfilled : ¬ Text.isBlank query) : inputOf r = some (Text.trim query) := by
  have hkept : Text.trim query ≠ "" := mt (Text.trim_eq_empty_iff query).mp hfilled
  simp [inputOf, hcode, hquery, Option.filter, hkept]

theorem inputOf_eq_none_iff : inputOf r = none ↔ r.LacksInput ∨ r.HidesQuery := by
  have htaken : inputOf r = none ↔
      ∀ text, (r.code <|> r.query) = some text → Text.isBlank text := by
    simp [inputOf, Option.filter_eq_none_iff, Text.trim_eq_empty_iff]
  rw [htaken, SuggestRequest.LacksInput, SuggestRequest.HidesQuery]
  cases r.code with
  | none => simp
  | some code =>
      -- The query is not looked at, so it makes no difference whether it is blank as well.
      have hquery : (∀ query, r.query = some query → Text.isBlank query) ∨
          ∃ query, r.query = some query ∧ ¬ Text.isBlank query := by
        cases r.query <;> simp
      calc (∀ text, (some code <|> r.query) = some text → Text.isBlank text)
          ↔ Text.isBlank code := by simp
        _ ↔ Text.isBlank code ∧ _ := (and_iff_left hquery).symm
        _ ↔ _ := by simp [and_or_left]

end SuggestPlan

namespace Suggester

variable (s : Suggester) (version : Version)

/-- Whether a request is told that it brings nothing to be searched. -/
def Refuses (r : SuggestRequest) : Prop :=
  ∃ e, (s.suggest version r).value = .error e ∧ e.kind = .validation ∧
    e.detail = "query or code is required"

/-- Whether a request is answered for one text, up to the blanks around it. -/
def RunsOn (r : SuggestRequest) (index input : String) : Prop :=
  s.suggest version r = s.run ⟨Text.trim input, max 1 r.page, index⟩
      (s.context version r.disableIntent (Text.trim input)) ∧
    ∀ answer, (s.suggest version r).value = .ok answer → answer.context.query = Text.trim input

theorem context_query (disableIntent : Bool) (input : String) :
    (s.context version disableIntent input).query = Text.trim input := by
  have henriched : (enrich s.sources version input disableIntent).query = Text.trim input := by
    rw [enrich, runStages_query, Context.ofQuery_query]
  rw [context]
  split_ifs
  · exact henriched
  · exact henriched

variable {s version} {r : SuggestRequest}

theorem respond_context {plan : SuggestPlan} {c : Context} {results : List StrategyResult}
    {answer : SuggestResponse} (hanswer : respond plan c results = .ok answer) :
    answer.context = c := by
  unfold respond mergedResponse at hanswer
  split_ifs at hanswer
  · cases hanswer
    rfl
  · split at hanswer
    · cases hanswer
    · cases hanswer
      rfl

/-- Once a request is sent, what can still go wrong is not its fault. -/
theorem run_cases (plan : SuggestPlan) (c : Context) :
    (∃ cause, (s.run plan c).value = .error (.backend cause)) ∨
      ∃ results, (s.run plan c).value = respond plan c results := by
  rw [run, Traced.value_bind]
  cases (Batch.execute s.backend plan.index (clauses plan c)).value with
  | error cause => exact .inl ⟨cause, rfl⟩
  | ok results => exact .inr ⟨results, rfl⟩

theorem respond_kind {plan : SuggestPlan} {c : Context} {results : List StrategyResult}
    {e : SearchError} (herror : respond plan c results = .error e) : e.kind = .internal := by
  unfold respond mergedResponse at herror
  split_ifs at herror
  split at herror
  · cases herror
    rfl
  · cases herror

theorem run_context {plan : SuggestPlan} {c : Context} {answer : SuggestResponse}
    (hanswer : (s.run plan c).value = .ok answer) : answer.context = c := by
  obtain ⟨cause, hvalue⟩ | ⟨results, hvalue⟩ := s.run_cases plan c
  · cases hvalue.symm.trans hanswer
  · exact respond_context (hvalue.symm.trans hanswer)

theorem run_kind_ne {plan : SuggestPlan} {c : Context} {e : SearchError}
    (herror : (s.run plan c).value = .error e) : e.kind ≠ .validation := by
  obtain ⟨cause, hvalue⟩ | ⟨results, hvalue⟩ := s.run_cases plan c
  · cases hvalue.symm.trans herror
    exact nofun
  · rw [respond_kind (hvalue.symm.trans herror)]
    decide

/-- A request without input is refused before anything else about it is checked, and nothing is
asked for it. -/
theorem suggest_of_no_input (hinput : SuggestPlan.inputOf r = none) :
    s.suggest version r = pure (.error (.invalid .noInput)) := by
  have hplan : SuggestPlan.ofRequest s.indexBase r = .error .noInput := by
    rw [SuggestPlan.ofRequest, hinput]
    rfl
  rw [suggest, hplan]

section

variable {index : String} (hpage : r.page ≤ maxSuggestPage)
  (hindex : Index.name s.indexBase r.lang = .ok index)

include hpage hindex

theorem suggest_of_input {input : String} (hinput : SuggestPlan.inputOf r = some input) :
    s.suggest version r = s.run ⟨input, max 1 r.page, index⟩
      (s.context version r.disableIntent input) := by
  have hlast : max 1 r.page ≤ maxSuggestPage := max_le (by decide) hpage
  have hplan : SuggestPlan.ofRequest s.indexBase r = .ok ⟨input, max 1 r.page, index⟩ :=
    SuggestPlan.ofRequest_eq_ok_iff.mpr ⟨hinput, ⟨rfl, hlast⟩, hindex⟩
  rw [suggest, hplan]

theorem runsOn_of_input {input : String}
    (hinput : SuggestPlan.inputOf r = some (Text.trim input)) : s.RunsOn version r index input := by
  have hrun : s.suggest version r = _ := suggest_of_input hpage hindex hinput
  refine ⟨hrun, fun answer hanswer => ?_⟩
  rw [hrun] at hanswer
  rw [run_context hanswer, context_query, Text.trim_trim]

theorem refuses_iff : s.Refuses version r ↔ SuggestPlan.inputOf r = none := by
  constructor
  · rintro ⟨e, hvalue, hkind, -⟩
    cases hinput : SuggestPlan.inputOf r with
    | none => rfl
    | some input =>
        -- The request is sent, and what fails then is not its fault.
        rw [suggest_of_input hpage hindex hinput] at hvalue
        exact absurd hkind (run_kind_ne hvalue)
  · intro hinput
    rw [Refuses, suggest_of_no_input hinput]
    exact ⟨_, rfl, rfl, rfl⟩

/-- A request of a sound page and language is refused for want of input if it has none, or if a code
of blanks stands before its query. Any other is answered for its code, and without one for its
query. -/
theorem suggestion_refused_iff (version : Version) :
    (s.Refuses version r ↔ r.LacksInput ∨ r.HidesQuery) ∧
      (∀ code, r.code = some code → ¬ Text.isBlank code → s.RunsOn version r index code) ∧
      ∀ query, r.code = none → r.query = some query → ¬ Text.isBlank query →
        s.RunsOn version r index query := by
  refine ⟨?_, ?_, ?_⟩
  · rw [refuses_iff hpage hindex, SuggestPlan.inputOf_eq_none_iff]
  · intro code hcode hfilled
    exact runsOn_of_input hpage hindex (SuggestPlan.inputOf_of_code hcode hfilled)
  · intro query hcode hquery hfilled
    exact runsOn_of_input hpage hindex (SuggestPlan.inputOf_of_query hcode hquery hfilled)

end

/-- A request for a code with blanks around it, and a query beside it. -/
def paddedRequest : SuggestRequest := ⟨some "food", some " BD ", 1, "en", false⟩

theorem suggestion_refused_iff_padded : ¬ inOrder.Refuses .v3 paddedRequest ∧
    inOrder.RunsOn .v3 paddedRequest "taxonomies_en" " BD " := by
  obtain ⟨hrefused, hcode, -⟩ := suggestion_refused_iff (s := inOrder) (r := paddedRequest)
    (by decide) (show Index.name inOrder.indexBase paddedRequest.lang = .ok "taxonomies_en" by rfl)
    .v3
  have hfilled : ¬ Text.isBlank " BD " := by decide
  refine ⟨?_, hcode " BD " rfl hfilled⟩
  rw [hrefused]
  rintro (hlacks | ⟨⟨code, hcode, hblank⟩, -⟩)
  · exact hfilled (hlacks.1 " BD " rfl)
  · cases hcode
    exact hfilled hblank

def hiddenRequest : SuggestRequest := ⟨some "food", some " ", 1, "en", false⟩

/-- A query that could be searched is refused as missing, in every version. -/
theorem exists_query_refused : ∃ (s : Suggester) (r : SuggestRequest),
    r.page ≤ maxSuggestPage ∧ (∃ index, Index.name s.indexBase r.lang = .ok index) ∧
      ¬ r.LacksInput ∧ ∀ version, s.Refuses version r := by
  have hindex : Index.name inOrder.indexBase hiddenRequest.lang = .ok "taxonomies_en" := by rfl
  have hfilled : ¬ Text.isBlank "food" := by decide
  refine ⟨inOrder, hiddenRequest, by decide, ⟨_, hindex⟩, ?_, ?_⟩
  · rintro ⟨-, hquery⟩
    exact hfilled (hquery "food" rfl)
  · intro version
    exact (refuses_iff (s := inOrder) (r := hiddenRequest) (by decide) hindex).mpr (by decide)

end Suggester

end HybridSearch
