import HybridSearch.Proofs.SuggestPages
import HybridSearch.Proofs.Text
import HybridSearch.Proofs.Unclassified
import HybridSearch.Proofs.Words
import Mathlib.Data.UInt

/-!
# What is asked for suggestions

An input that is accepted is not blank, and whatever enrichment leaves of it is not either: a query
that survives has a word, and if none survives the input is asked as typed. Merging the queries
keeps their first word. So the backend is asked one thing that says something, for a window that the
greatest page bounds.
-/

namespace HybridSearch

open Query Text

namespace Query

/-- Merged queries begin with the first word of them all. -/
theorem not_isBlank_merge {queries : List ProcessedQuery} {q : ProcessedQuery} (hq : q ∈ queries)
    (hsome : ¬ isBlank q.text) : ¬ isBlank (merge queries) := by
  have hwords : (queries.flatMap fun q => words q.text) ≠ [] := by
    intro hnone
    rw [List.flatMap_eq_nil_iff] at hnone
    exact hsome (words_eq_nil_iff.mp (hnone q hq))
  obtain ⟨first, rest, hfirst⟩ := List.exists_cons_of_ne_nil hwords
  obtain ⟨q', -, hword⟩ := List.mem_flatMap.mp (hfirst ▸ List.mem_cons_self)
  have hkept : first ∈ firstSpellings [] (first :: rest) := by simp [firstSpellings]
  intro hblank
  rw [merge, hfirst] at hblank
  exact not_isBlank_of_mem_words hword (isBlank_of_isBlank_intercalate hblank hkept)

theorem not_isBlank_of_mem_enrich {s : Sources} {version : Version} {query : String}
    {disableIntent : Bool} (hquery : ¬ isBlank query) {q : ProcessedQuery}
    (hq : q ∈ (enrich s version query disableIntent).processed) : ¬ isBlank q.text := by
  by_cases hversion : version = .v1
  · subst hversion
    have htyped : q ∈ [⟨trim query, .user, "original"⟩] := hq
    rwa [List.mem_singleton.mp htyped, isBlank_trim]
  · obtain ⟨word, hword, -⟩ := isAllGeneric_eq_false_iff.mp (isAllGeneric_of_mem_enrich hversion hq)
    rw [← words_eq_nil_iff]
    exact List.ne_nil_of_mem hword

end Query

namespace SuggestPlan

theorem not_isBlank_of_inputOf {r : SuggestRequest} {input : String} (hinput : inputOf r = some input) :
    ¬ isBlank input := by
  obtain ⟨htrimmed, hsome⟩ := Option.filter_eq_some_iff.mp hinput
  obtain ⟨text, -, rfl⟩ := Option.map_eq_some_iff.mp htrimmed
  rw [isBlank_trim, ← trim_eq_empty_iff]
  exact of_decide_eq_true hsome

/-- The hits that a page is asked for: its own ten, or all up to its end. -/
def window (plan : SuggestPlan) : Version → Window
  | .v1 | .v2 => ⟨some plan.skipped, pageSize⟩
  | .v3 => ⟨none, plan.page * pageSize⟩

end SuggestPlan

/-- How many hits there are up to the end of a window. -/
def Window.stop (w : Window) : Nat := w.skip.getD 0 + w.size

theorem SuggestPlan.stop_window {plan : SuggestPlan} (hfirst : 1 ≤ plan.page) (version : Version) :
    (plan.window version).stop = plan.page * pageSize := by
  have hskipped : plan.skipped + pageSize = plan.page * pageSize := by
    rw [skipped, ← Nat.succ_mul, Nat.succ_eq_add_one, Nat.sub_add_cancel hfirst]
  cases version with
  | v1 => exact hskipped
  | v2 => exact hskipped
  | v3 => exact Nat.zero_add _

theorem UInt64.toNat_mul_of_lt {a b : UInt64} (hlt : a.toNat * b.toNat < 2 ^ 64) :
    (a * b).toNat = a.toNat * b.toNat := by
  rw [UInt64.toNat_mul, Nat.mod_eq_of_lt hlt]

/-- Words of sixty-four bits count the hits before a page and up to its end, whatever page is
asked for, as long as it is not too deep. -/
theorem SuggestPlan.toNat_words {plan : SuggestPlan} {page : UInt64}
    (hpage : plan.page = max 1 page.toNat) (hlast : plan.page ≤ maxSuggestPage) :
    (max 1 page).toNat = plan.page ∧ ((max 1 page - 1) * 10).toNat = plan.skipped ∧
      (max 1 page * 10).toNat = plan.page * pageSize := by
  have hdeepest : maxSuggestPage = 100 := rfl
  have hten : (10 : UInt64).toNat = 10 := rfl
  have hmax : (max 1 page).toNat = plan.page := by
    rw [UInt64.toNat_max, hpage]
    rfl
  have hle : 1 ≤ max 1 page := by
    rw [UInt64.le_iff_toNat_le, hmax, hpage]
    exact Nat.le_max_left 1 page.toNat
  have hprevious : (max 1 page - 1).toNat = plan.page - 1 := by
    rw [UInt64.toNat_sub_of_le _ _ hle, hmax]
    rfl
  refine ⟨hmax, ?_, ?_⟩
  · rw [UInt64.toNat_mul_of_lt, hprevious, hten]
    · rfl
    · rw [hprevious, hten]
      omega
  · rw [UInt64.toNat_mul_of_lt, hmax, hten]
    · rfl
    · rw [hmax, hten]
      omega

namespace Suggester

variable (s : Suggester) (version : Version) (disableIntent : Bool)

theorem processed_context_ne_nil (input : String) :
    (s.context version disableIntent input).processed ≠ [] := by
  simp only [context]
  split_ifs with hnone
  · exact List.append_ne_nil_of_right_ne_nil _ (List.cons_ne_nil _ _)
  · rwa [Ne, ← List.isEmpty_iff]

theorem not_isBlank_of_mem_context {input : String} (hinput : ¬ isBlank input) {q : ProcessedQuery}
    (hq : q ∈ (s.context version disableIntent input).processed) : ¬ isBlank q.text := by
  simp only [context] at hq
  split_ifs at hq
  · rcases List.mem_append.mp hq with henriched | htyped
    · exact not_isBlank_of_mem_enrich hinput henriched
    · rwa [List.mem_singleton.mp htyped]
  · exact not_isBlank_of_mem_enrich hinput hq

/-- The texts that an enriched input is asked as. -/
def asked (version : Version) (c : Context) : List String :=
  if version = .v3 then c.processed.map (·.text) else [c.merged]

theorem asked_context_ne_nil (input : String) :
    asked version (s.context version disableIntent input) ≠ [] := by
  rw [asked]
  split_ifs
  · rw [Ne, List.map_eq_nil_iff]
    exact s.processed_context_ne_nil _ disableIntent input
  · exact List.cons_ne_nil _ _

theorem not_isBlank_of_mem_asked {input : String} (hinput : ¬ isBlank input) {text : String}
    (htext : text ∈ asked version (s.context version disableIntent input)) : ¬ isBlank text := by
  rw [asked] at htext
  split_ifs at htext
  · obtain ⟨q, hq, rfl⟩ := List.mem_map.mp htext
    exact s.not_isBlank_of_mem_context _ disableIntent hinput hq
  · obtain ⟨q, hq⟩ := List.exists_mem_of_ne_nil _
      (s.processed_context_ne_nil version disableIntent input)
    rw [List.mem_singleton.mp htext]
    exact not_isBlank_merge hq (s.not_isBlank_of_mem_context version disableIntent hinput hq)

theorem bodies_clauses (plan : SuggestPlan) (input : String) :
    (clauses plan (s.context version disableIntent input)).map (·.body)
      = (asked version (s.context version disableIntent input)).map fun text =>
        searchBody (.text text (s.context version disableIntent input).fields) []
          (plan.window version) := by
  have hdual := s.context_has version disableIntent input .dualQuery
  rw [contains_enabled (by decide)] at hdual
  generalize s.context version disableIntent input = c at hdual ⊢
  cases version with
  | v1 =>
      have hmerged : c.has .dualQuery = false := hdual
      simp [clauses, asked, hmerged, mergedClause, SuggestPlan.window]
  | v2 =>
      have hmerged : c.has .dualQuery = false := hdual
      simp [clauses, asked, hmerged, mergedClause, SuggestPlan.window]
  | v3 =>
      have hown : c.has .dualQuery = true := hdual
      simp [clauses, asked, hown, dualClauses, SuggestPlan.window]

theorem suggest_calls_of_plan {r : SuggestRequest} {plan : SuggestPlan}
    (hplan : SuggestPlan.ofRequest s.indexBase r = .ok plan) :
    (s.suggest version r).calls = (Batch.execute s.backend plan.index
      (clauses plan (s.context version r.disableIntent plan.input))).calls := by
  unfold suggest
  rw [hplan]
  simp only [run, Traced.calls_bind]
  split
  · exact List.append_nil _
  · exact List.append_nil _

/-- A request for suggestions that is accepted makes one call, with some queries, none of them
blank, for no hit beyond the thousandth; and machine words hold the numbers of its window. -/
theorem suggest_asks_once (s : Suggester) (version : Version) {r : SuggestRequest}
    {plan : SuggestPlan} (hplan : SuggestPlan.ofRequest s.indexBase r = .ok plan) :
    (∃ texts fields, texts ≠ [] ∧ (∀ text ∈ texts, ¬ isBlank text) ∧
      (s.suggest version r).calls = [.search plan.index (texts.map fun text =>
        searchBody (.text text fields) [] (plan.window version))]) ∧
    plan.page = max 1 r.page ∧ (plan.window version).stop = 10 * plan.page ∧
    (plan.window version).stop ≤ 1000 ∧
    ∀ page : UInt64, page.toNat = r.page →
      (max 1 page).toNat = plan.page ∧ ((max 1 page - 1) * 10).toNat = plan.skipped ∧
      (max 1 page * 10).toNat = 10 * plan.page := by
  obtain ⟨hinput, ⟨hpage, hlast⟩, -⟩ := SuggestPlan.ofRequest_eq_ok_iff.mp hplan
  have hfirst : 1 ≤ plan.page := hpage ▸ Nat.le_max_left 1 r.page
  have hstop : (plan.window version).stop = 10 * plan.page := by
    rw [SuggestPlan.stop_window hfirst, Nat.mul_comm]
    rfl
  have hbound : 10 * plan.page ≤ 1000 := Nat.mul_le_mul_left 10 hlast
  refine ⟨?_, hpage, hstop, hstop ▸ hbound, fun page hword => ?_⟩
  · have hsome := SuggestPlan.not_isBlank_of_inputOf hinput
    refine ⟨asked version (s.context version r.disableIntent plan.input),
      (s.context version r.disableIntent plan.input).fields,
      s.asked_context_ne_nil version r.disableIntent plan.input,
      fun text => s.not_isBlank_of_mem_asked version r.disableIntent hsome, ?_⟩
    have hbodies := s.bodies_clauses version r.disableIntent plan plan.input
    have hclauses : clauses plan (s.context version r.disableIntent plan.input) ≠ [] := by
      intro hnone
      rw [hnone, List.map_nil, eq_comm, List.map_eq_nil_iff] at hbodies
      exact s.asked_context_ne_nil version r.disableIntent plan.input hbodies
    rw [s.suggest_calls_of_plan version hplan, Batch.calls_execute, if_neg (by simpa using hclauses),
      hbodies]
  · rw [Nat.mul_comm]
    exact SuggestPlan.toNat_words (hword ▸ hpage) hlast

/-- A request with nothing specific in it, for a page before the first. -/
def helpRequest : SuggestRequest := ⟨some " help ", none, 0, "en", false⟩

theorem suggest_asks_once_of_help :
    (enrich rentSources .v2 "help" false).processed = [] ∧
      ∃ texts fields, texts ≠ [] ∧ (∀ text ∈ texts, ¬ isBlank text) ∧
        ({ inOrder with sources := rentSources }.suggest .v2 helpRequest).calls =
          [.search "taxonomies_en" (texts.map fun text =>
            searchBody (.text text fields) [] ⟨some 0, 10⟩)] := by
  have hplan : SuggestPlan.ofRequest "taxonomies" helpRequest
      = .ok ⟨"help", 1, "taxonomies_en"⟩ := by
    rfl
  obtain ⟨hcalls, -⟩ := suggest_asks_once { inOrder with sources := rentSources } .v2 hplan
  exact ⟨by decide +kernel, hcalls⟩

end Suggester

end HybridSearch
