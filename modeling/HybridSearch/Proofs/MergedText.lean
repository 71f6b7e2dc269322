import HybridSearch.Proofs.Distinct
import HybridSearch.Proofs.Spacing

/-!
# One text for all queries

Words that differ in case only spell one term. The merged text holds each term of the queries once,
as it is spelled where it is met first. No two of its words spell one term, so that there is nothing
left to merge in it.
-/

namespace HybridSearch.Query

open HybridSearch.Text

/-- Whether a word of a list spells a term that no word before it spells. -/
def FirstSpelling (ws : List String) (w : String) : Prop :=
  ∃ front back, ws = front ++ w :: back ∧ ∀ v ∈ front, lowercase v ≠ lowercase w

/-- The words of some queries, as they stand. -/
def queryWords (queries : List ProcessedQuery) : List String :=
  queries.flatMap fun q => words q.text

section

variable {seen ws : List String} {v w : String}

theorem firstSpelling_cons :
    FirstSpelling (v :: ws) w ↔ w = v ∨ lowercase v ≠ lowercase w ∧ FirstSpelling ws w := by
  constructor
  · rintro ⟨front, back, hsplit, hfront⟩
    cases front with
    | nil => exact .inl (List.cons.inj hsplit).1.symm
    | cons u front =>
        obtain ⟨rfl, hrest⟩ := List.cons.inj hsplit
        rw [List.forall_mem_cons] at hfront
        exact .inr ⟨hfront.1, front, back, hrest, hfront.2⟩
  · rintro (rfl | ⟨hother, front, back, rfl, hfront⟩)
    · exact ⟨[], ws, rfl, by simp⟩
    · exact ⟨v :: front, back, rfl, List.forall_mem_cons.mpr ⟨hother, hfront⟩⟩

/-- Of the words for one term one is the first. -/
theorem exists_firstSpelling (hw : w ∈ ws) :
    ∃ v, FirstSpelling ws v ∧ lowercase v = lowercase w := by
  obtain ⟨front, v, back, hsplit, hv, hfront⟩ :=
    exists_first (P := fun v => lowercase v = lowercase w) ⟨w, hw, rfl⟩
  refine ⟨v, ⟨front, back, hsplit, ?_⟩, hv⟩
  rwa [hv]

theorem firstSpellings_of_seen (hv : lowercase v ∈ seen) :
    firstSpellings seen (v :: ws) = firstSpellings seen ws := by
  rw [firstSpellings]
  exact if_pos (List.contains_iff_mem.mpr hv)

theorem firstSpellings_of_new (hv : lowercase v ∉ seen) :
    firstSpellings seen (v :: ws) = v :: firstSpellings (lowercase v :: seen) ws := by
  rw [firstSpellings]
  exact if_neg (mt List.contains_iff_mem.mp hv)

theorem firstSpellings_sublist (seen ws : List String) : (firstSpellings seen ws).Sublist ws := by
  induction ws generalizing seen with
  | nil => exact List.Sublist.refl _
  | cons v ws ih =>
      by_cases hv : lowercase v ∈ seen
      · rw [firstSpellings_of_seen hv]
        exact (ih seen).cons v
      · rw [firstSpellings_of_new hv]
        exact (ih _).cons_cons v

theorem mem_firstSpellings_iff :
    w ∈ firstSpellings seen ws ↔ lowercase w ∉ seen ∧ FirstSpelling ws w := by
  induction ws generalizing seen with
  | nil => simp [firstSpellings, FirstSpelling]
  | cons v ws ih =>
      rw [firstSpelling_cons]
      by_cases hv : lowercase v ∈ seen
      · -- A word for another term than `v` is the only one that can be new.
        rw [firstSpellings_of_seen hv, ih]
        refine and_congr_right fun hw => ?_
        have hother : lowercase v ≠ lowercase w := fun hsame => hw (hsame ▸ hv)
        have hword : w ≠ v := fun hsame => hother (hsame ▸ rfl)
        simp [hother, hword]
      · rw [firstSpellings_of_new hv, List.mem_cons, ih, List.mem_cons, not_or, and_or_left]
        refine or_congr ?_ ?_
        · exact ⟨fun hsame => ⟨hsame ▸ hv, hsame⟩, And.right⟩
        · rw [and_assoc, and_left_comm, ne_comm]

theorem nodup_firstSpellings (seen ws : List String) :
    ((firstSpellings seen ws).map lowercase).Nodup := by
  induction ws generalizing seen with
  | nil => exact List.nodup_nil
  | cons v ws ih =>
      by_cases hv : lowercase v ∈ seen
      · rw [firstSpellings_of_seen hv]
        exact ih seen
      · rw [firstSpellings_of_new hv, List.map_cons, List.nodup_cons]
        refine ⟨fun hlater => ?_, ih _⟩
        obtain ⟨w, hw, hsame⟩ := List.mem_map.mp hlater
        exact (mem_firstSpellings_iff.mp hw).1 (hsame ▸ List.mem_cons_self)

theorem firstSpellings_eq_self (hnodup : (ws.map lowercase).Nodup)
    (hnew : ∀ w ∈ ws, lowercase w ∉ seen) : firstSpellings seen ws = ws := by
  induction ws generalizing seen with
  | nil => rfl
  | cons v ws ih =>
      rw [List.map_cons, List.nodup_cons] at hnodup
      rw [List.forall_mem_cons] at hnew
      have hlater : ∀ w ∈ ws, lowercase w ∉ lowercase v :: seen := by
        intro w hw hmem
        rcases List.mem_cons.mp hmem with hsame | hseen
        · exact hnodup.1 (hsame ▸ List.mem_map_of_mem hw)
        · exact hnew.2 w hw hseen
      rw [firstSpellings_of_new hnew.1, ih hnodup.2 hlater]

end

/-! ### The merged text -/

theorem words_merge (queries : List ProcessedQuery) :
    words (merge queries) = firstSpellings [] (queryWords queries) := by
  refine words_intercalate fun w hw => ?_
  obtain ⟨q, -, hword⟩ := List.mem_flatMap.mp ((firstSpellings_sublist _ _).subset hw)
  exact isSolid_of_mem_words hword

theorem mem_words_merge_iff {queries : List ProcessedQuery} {w : String} :
    w ∈ words (merge queries) ↔ FirstSpelling (queryWords queries) w := by
  rw [words_merge, mem_firstSpellings_iff]
  simp

/-- A text without a term that is spelled twice is merged into itself, but for its blanks. -/
theorem merge_of_nodup {q : ProcessedQuery} (hnodup : ((words q.text).map lowercase).Nodup) :
    merge [q] = " ".intercalate (words q.text) := by
  have hall : queryWords [q] = words q.text := List.append_nil _
  rw [merge, ← queryWords, hall, firstSpellings_eq_self hnodup (by simp)]

/-- The words of the merged text are the first spellings of the terms of all queries, in order: no
two of them differ in case only, and every word of a query is there up to its case. Merging the
merged text changes nothing. -/
theorem merge_spells_once (queries : List ProcessedQuery) :
    ((words (merge queries)).map lowercase).Nodup ∧
    (words (merge queries)).Sublist (queryWords queries) ∧
    (∀ w, w ∈ words (merge queries) ↔ FirstSpelling (queryWords queries) w) ∧
    (∀ q ∈ queries, ∀ w ∈ words q.text,
      ∃ v ∈ words (merge queries), lowercase v = lowercase w) ∧
    ∀ type source, merge [⟨merge queries, type, source⟩] = merge queries := by
  have hnodup : ((words (merge queries)).map lowercase).Nodup := by
    rw [words_merge]
    exact nodup_firstSpellings _ _
  refine ⟨hnodup, ?_, fun w => mem_words_merge_iff, fun q hq w hw => ?_, fun type source => ?_⟩
  · rw [words_merge]
    exact firstSpellings_sublist _ _
  · have hmem : w ∈ queryWords queries := List.mem_flatMap.mpr ⟨q, hq, hw⟩
    obtain ⟨v, hfirst, hsame⟩ := exists_firstSpelling hmem
    exact ⟨v, mem_words_merge_iff.mpr hfirst, hsame⟩
  · calc merge [⟨merge queries, type, source⟩]
        = " ".intercalate (words (merge queries)) :=
          merge_of_nodup (q := ⟨merge queries, type, source⟩) hnodup
      _ = merge queries := by rw [words_merge, merge, queryWords]

theorem merge_spells_once_of_rent :
    merge [⟨"rent  evict", .user, "stemmed"⟩, ⟨"Rent housing", .intent, "classifier"⟩]
      = "rent evict housing" ∧
    (∃ v ∈ words "rent evict housing", lowercase v = lowercase "Rent") ∧
    merge [⟨"rent evict housing", .user, "original"⟩] = "rent evict housing" := by
  have hmerged : merge [⟨"rent  evict", .user, "stemmed"⟩, ⟨"Rent housing", .intent, "classifier"⟩]
      = "rent evict housing" := by
    decide +kernel
  obtain ⟨-, -, -, hkept, hagain⟩ := merge_spells_once
    [⟨"rent  evict", .user, "stemmed"⟩, ⟨"Rent housing", .intent, "classifier"⟩]
  rw [hmerged] at hkept hagain
  refine ⟨hmerged, ?_, hagain .user "original"⟩
  exact hkept ⟨"Rent housing", .intent, "classifier"⟩ (by simp) "Rent" (by decide +kernel)

end HybridSearch.Query
