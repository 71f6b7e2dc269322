import HybridSearch.Language.Nouns
import HybridSearch.Proofs.Classes
import HybridSearch.Proofs.Words
import Mathlib.Data.List.Lemmas

/-!
# Stems are words

The regions in which suffixes are stripped begin past the first letter of a word, and a suffix that
is stripped outside them leaves a vowel before it. So no step of stemming leaves a word empty, and
none puts a blank into it: the stem of an alphanumeric piece is a word again.
-/

namespace HybridSearch.Language.Stem

open Text

variable {cs : List Char} {w : Word} {s : List Char}

/-- A word under way that no step can empty. -/
structure Word.IsSound (w : Word) : Prop where
  solid : IsSolid w.chars
  region₁ : 1 ≤ w.region₁
  region₂ : 1 ≤ w.region₂

namespace Word

theorem IsSound.withChars (hw : w.IsSound) (hcs : IsSolid cs) : IsSound { w with chars := cs } :=
  ⟨hcs, hw.region₁, hw.region₂⟩

/-! ### Suffixes -/

/-- What a fold keeps of a list, if it keeps what it has or takes the next, is one of the list. -/
theorem mem_of_foldl {f : Option (List Char) → List Char → Option (List Char)}
    (hf : ∀ best t, f best t = some t ∨ f best t = best) {ts : List (List Char)}
    {best : Option (List Char)} (hresult : ts.foldl f best = some s) : s ∈ ts ∨ best = some s := by
  induction ts generalizing best with
  | nil => exact .inr hresult
  | cons t ts ih =>
      rcases ih hresult with hmem | hbest
      · exact .inl (List.mem_cons_of_mem t hmem)
      · rcases hf best t with hnext | hnext
        · obtain rfl := Option.some_inj.mp (hnext.symm.trans hbest)
          exact .inl List.mem_cons_self
        · exact .inr (hnext.symm.trans hbest)

/-- A suffix that is found is one of those asked for, and ends the word. -/
theorem suffix?_spec {suffixes : List String} (hs : w.suffix? suffixes = some s) :
    s ∈ suffixes.map String.toList ∧ w.chars = w.before s ++ s := by
  rcases mem_of_foldl (fun best t => by grind) hs with hmem | hnone
  · obtain ⟨hlisted, hends⟩ := List.mem_filter.mp hmem
    refine ⟨hlisted, ?_⟩
    obtain ⟨front, hfront⟩ := List.isSuffixOf_iff_suffix.mp hends
    have hlength : w.chars.length - s.length = front.length := by
      rw [← hfront, List.length_append, Nat.add_sub_cancel]
    rw [before, hlength, ← hfront, List.take_left]
  · cases hnone

theorem not_isSpace_of_mem_before (hw : w.IsSound) : ∀ c ∈ w.before s, isSpace c = false :=
  fun c hc => hw.solid.solid c ((List.take_sublist _ _).subset hc)

theorem IsSound.replace (hw : w.IsSound) {replacement : List Char}
    (hsome : w.before s ≠ [] ∨ replacement ≠ [])
    (hsolid : ∀ c ∈ replacement, isSpace c = false) : (w.replace s replacement).IsSound := by
  refine hw.withChars ⟨?_, ?_⟩
  · rcases hsome with hbefore | hreplacement
    · exact List.append_ne_nil_of_left_ne_nil hbefore _
    · exact List.append_ne_nil_of_right_ne_nil _ hreplacement
  · intro c hc
    rcases List.mem_append.mp hc with hc | hc
    · exact not_isSpace_of_mem_before hw c hc
    · exact hsolid c hc

theorem before_ne_nil_of_inRegion₁ (hw : w.IsSound) (hregion : w.inRegion₁ s) :
    w.before s ≠ [] := by
  have hlength : w.region₁ ≤ (w.before s).length := by simpa [inRegion₁] using hregion
  exact List.ne_nil_of_length_pos (hw.region₁.trans hlength)

theorem before_ne_nil_of_inRegion₂ (hw : w.IsSound) (hregion : w.inRegion₂ s) :
    w.before s ≠ [] := by
  have hlength : w.region₂ ≤ (w.before s).length := by simpa [inRegion₂] using hregion
  exact List.ne_nil_of_length_pos (hw.region₂.trans hlength)

/-! ### The regions of a word -/

theorem length_afterStep_le (cs : List Char) : (afterStep cs).length ≤ cs.length := by
  rw [afterStep, List.length_drop]
  have hvowels := (List.dropWhile_sublist isVowel (l := cs.dropWhile (!isVowel ·))).length_le
  have hstart := (List.dropWhile_sublist (!isVowel ·) (l := cs)).length_le
  omega

theorem length_afterStep_lt (hcs : cs ≠ []) : (afterStep cs).length < cs.length := by
  have hpos := List.length_pos_iff.mpr hcs
  rw [afterStep, List.length_drop]
  have hvowels := (List.dropWhile_sublist isVowel (l := cs.dropWhile (!isVowel ·))).length_le
  have hstart := (List.dropWhile_sublist (!isVowel ·) (l := cs)).length_le
  omega

theorem mem_markConsonantY {afterVowel : Bool} {c : Char} (hc : c ∈ markConsonantY afterVowel cs) :
    c = 'Y' ∨ c ∈ cs := by
  induction cs generalizing afterVowel with
  | nil => cases hc
  | cons d cs ih =>
      rw [markConsonantY] at hc
      rcases List.mem_cons.mp hc with hfirst | hc
      · split_ifs at hfirst
        · exact .inl hfirst
        · exact .inr (hfirst ▸ List.mem_cons_self)
      · exact (ih hc).imp_right (List.mem_cons_of_mem d)

theorem isSound_ofChars (hcs : IsSolid cs) : (ofChars cs).IsSound := by
  have hmarked : IsSolid (markConsonantY true cs) := by
    refine ⟨?_, fun c hc => ?_⟩
    · obtain ⟨c, cs, rfl⟩ := List.exists_cons_of_ne_nil hcs.some
      exact List.cons_ne_nil _ _
    · rcases mem_markConsonantY hc with rfl | hc
      · decide
      · exact hcs.solid c hc
  have hstarts : ∀ start ∈ fixedStarts, 0 < start.length := by decide
  have hpos := List.length_pos_iff.mpr hmarked.some
  have hregion₁ (rest : List Char) (hrest : rest.length < (markConsonantY true cs).length) :
      IsSound ⟨markConsonantY true cs, (markConsonantY true cs).length - rest.length,
        (markConsonantY true cs).length - (afterStep rest).length⟩ := by
    have hlater := length_afterStep_le rest
    exact ⟨hmarked, by simp only; omega, by simp only; omega⟩
  rw [ofChars]
  apply hregion₁
  split
  · rename_i start hstart
    have hlength := hstarts start (List.mem_of_find?_eq_some hstart)
    rw [List.length_drop]
    omega
  · exact length_afterStep_lt hmarked.some

end Word

/-! ### The steps -/

open Word

theorem isSolid_append_e (hcs : IsSolid cs) : IsSolid (cs ++ ['e']) := by
  refine ⟨List.append_ne_nil_of_left_ne_nil hcs.some _, fun c hc => ?_⟩
  rcases List.mem_append.mp hc with hc | hc
  · exact hcs.solid c hc
  · rw [List.mem_singleton.mp hc]
    decide

theorem isSolid_dropLast (hcs : IsSolid cs) (hlong : 1 < cs.length) : IsSolid cs.dropLast :=
  ⟨List.ne_nil_of_length_pos (by rw [List.length_dropLast]; omega),
    fun c hc => hcs.solid c (List.dropLast_subset cs hc)⟩

theorem isSound_plural (hw : w.IsSound) : (plural w).IsSound := by
  rw [plural]
  split
  · rename_i s _
    simp only
    split_ifs with hsses hthree hlong hone
    · exact hw.replace (.inr (by decide)) (by decide)
    · exact hw.replace (.inr (by decide)) (by decide)
    · exact hw.replace (.inr (by decide)) (by decide)
    · -- A vowel stands before the last letter but one.
      refine hw.replace (.inl ?_) (by simp)
      intro hnone
      simp [hnone] at hone
    · exact hw
  · exact hw

theorem isSound_mendEnd (hw : w.IsSound) : (mendEnd w).IsSound := by
  rw [mendEnd]
  split
  · rename_i s hs
    obtain ⟨hlisted, hends⟩ := suffix?_spec hs
    have htwo : ∀ s ∈ ["at", "bl", "iz", "bb", "dd", "ff", "gg", "mm", "nn", "pp", "rr", "tt"].map
        String.toList, s.length = 2 := by
      decide
    split_ifs
    · exact hw.withChars (isSolid_append_e hw.solid)
    · refine hw.withChars (isSolid_dropLast hw.solid ?_)
      rw [hends, List.length_append, htwo s hlisted]
      omega
  · split_ifs
    · exact hw.withChars (isSolid_append_e hw.solid)
    · exact hw

theorem isSound_participle (hw : w.IsSound) : (participle w).IsSound := by
  rw [participle]
  split
  · rename_i s _
    split_ifs with heed hregion hvowel
    · exact hw.replace (.inr (by decide)) (by decide)
    · exact hw
    · refine isSound_mendEnd (hw.replace (.inl ?_) (by simp))
      intro hnone
      simp [hnone] at hvowel
    · exact hw
  · exact hw

theorem isSound_finalY (hw : w.IsSound) : (finalY w).IsSound := by
  rw [finalY]
  split
  · rename_i y c b rest hchars
    split_ifs
    · refine hw.withChars ⟨by simp, fun d hd => ?_⟩
      rcases List.mem_cons.mp (List.mem_reverse.mp hd) with rfl | hd
      · decide
      · apply hw.solid.solid
        rw [← List.mem_reverse, hchars]
        exact List.mem_cons_of_mem y hd
    · exact hw
  · exact hw

/-- Rules that ask for a region leave a word sound, whatever they put in the place of a suffix. -/
theorem isSound_applyRules {rules : List Rule} {inRegion : Rule → Word → List Char → Bool}
    (hsolid : ∀ r ∈ rules, ∀ c ∈ r.replacement.toList, isSpace c = false)
    (hregion : ∀ r s, inRegion r w s → w.inRegion₁ s ∨ w.inRegion₂ s) (hw : w.IsSound) :
    (applyRules rules inRegion w).IsSound := by
  rw [applyRules]
  split
  · exact hw
  · split
    · rename_i r hr
      split_ifs with happlies
      · have hbefore : w.before _ ≠ [] :=
          (hregion r _ (Bool.and_eq_true_iff.mp happlies).1).elim (before_ne_nil_of_inRegion₁ hw)
            (before_ne_nil_of_inRegion₂ hw)
        exact hw.replace (.inl hbefore) (hsolid r (List.mem_of_find?_eq_some hr))
      · exact hw
    · exact hw

theorem isSound_derivation (hw : w.IsSound) : (derivation w).IsSound :=
  isSound_applyRules (by decide +kernel) (fun _ _ h => .inl h) hw

theorem isSound_ending (hw : w.IsSound) : (ending w).IsSound :=
  isSound_applyRules (by decide +kernel) (fun _ _ h => .inl (Bool.and_eq_true_iff.mp h).1) hw

theorem isSound_residue (hw : w.IsSound) : (residue w).IsSound :=
  isSound_applyRules (by decide +kernel) (fun _ _ h => .inr h) hw

theorem isSound_finalLetter (hw : w.IsSound) : (finalLetter w).IsSound := by
  have hshorter {c : Char} (hc : w.inRegion₁ [c] ∨ w.inRegion₂ [c]) : IsSolid w.chars.dropLast := by
    refine ⟨?_, fun d hd => hw.solid.solid d (List.dropLast_subset _ hd)⟩
    have hbefore : w.before [c] ≠ [] :=
      hc.elim (before_ne_nil_of_inRegion₁ hw) (before_ne_nil_of_inRegion₂ hw)
    rwa [List.dropLast_eq_take]
  rw [finalLetter]
  split
  · simp only
    split_ifs with hregion
    · refine hw.withChars (hshorter (c := 'e') ?_)
      rcases Bool.or_eq_true_iff.mp hregion with h₂ | h₁
      · exact .inr h₂
      · exact .inl (Bool.and_eq_true_iff.mp h₁).1
    · exact hw
  · simp only
    split_ifs with hregion
    · exact hw.withChars (hshorter (c := 'l') (.inr (Bool.and_eq_true_iff.mp hregion).1))
    · exact hw
  · exact hw

/-! ### The stem of a piece -/

theorem isSolid_unmarkY (hcs : IsSolid cs) : IsSolid (unmarkY cs) := by
  refine ⟨by simpa [unmarkY] using hcs.some, fun c hc => ?_⟩
  obtain ⟨d, hd, rfl⟩ := List.mem_map.mp hc
  split_ifs
  · decide
  · exact hcs.solid d hd

theorem isSolid_regular (hcs : IsSolid cs) : IsSolid (regular cs) := by
  have hplural := isSound_plural (isSound_ofChars hcs)
  rw [regular]
  split_ifs
  · exact isSolid_unmarkY hplural.solid
  · exact isSolid_unmarkY (isSound_finalLetter (isSound_residue (isSound_ending (isSound_derivation
      (isSound_finalY (isSound_participle hplural)))))).solid

theorem isSolid_ofWord (hcs : IsSolid cs) : IsSolid (ofWord cs) := by
  have hexceptions : ∀ e ∈ exceptions, e.2.toList ≠ [] ∧ ∀ c ∈ e.2.toList, isSpace c = false := by
    decide +kernel
  rw [ofWord]
  split
  · rename_i stem hstem
    obtain ⟨front, rest, hlisted, -⟩ := List.lookup_eq_some_iff.mp hstem
    obtain ⟨hsome, hsolid⟩ := hexceptions (.ofList cs, stem) (by simp [hlisted])
    exact ⟨hsome, hsolid⟩
  · split_ifs
    · exact hcs
    · exact isSolid_regular hcs

theorem isSolid_dropFinalI (hcs : IsSolid cs) : IsSolid (dropFinalI cs) := by
  rw [dropFinalI]
  split_ifs with hlong
  · exact isSolid_dropLast hcs (by omega)
  · exact hcs

theorem isSolid_ofPiece (hcs : IsSolid cs) : IsSolid (ofPiece cs) := by
  refine isSolid_dropFinalI (isSolid_ofWord ⟨?_, fun d hd => ?_⟩)
  · obtain ⟨c, cs, rfl⟩ := List.exists_cons_of_ne_nil hcs.some
    exact List.append_ne_nil_of_left_ne_nil (lowerChar_ne_nil c) _
  · obtain ⟨c, hc, hd⟩ := List.mem_flatMap.mp hd
    exact not_isSpace_of_mem_lowerChar (hcs.solid c hc) hd

end HybridSearch.Language.Stem
