import HybridSearch.Proofs.Classes
import HybridSearch.Proofs.Pattern
import HybridSearch.Proofs.Stage
import Mathlib.Tactic.MkIffOfInductiveProp

/-!
# The shape of a code

A code is one or two letters, then perhaps a dash and up to four numeric levels with points between
them. As it is documented a code may also have a dash between two levels, and its digits are those
of ASCII. The first is not recognised, and digits of any script are. On texts with one dash at most
and no other digits the two shapes are the same.
-/

namespace HybridSearch.Query

open Text Pattern

/-! ### Codes -/

/-- A numeric level of one to four digits. -/
@[mk_iff]
structure IsLevel (digit : Char → Bool) (cs : List Char) : Prop where
  some : 1 ≤ cs.length
  short : cs.length ≤ 4
  digits : ∀ c ∈ cs, digit c

/-- Letters, then levels, each behind the mark that comes with it. -/
def codeChars (letters : List Char) (levels : List (Char × List Char)) : List Char :=
  letters ++ levels.flatMap fun level => level.1 :: level.2

/-- The letters and the levels of a code. The first level stands behind a dash, the others behind
one of the separators. -/
@[mk_iff]
structure IsCodeOf (digit : Char → Bool) (separators letters : List Char)
    (levels : List (Char × List Char)) : Prop where
  some : 1 ≤ letters.length
  few : letters.length ≤ 2
  alpha : ∀ c ∈ letters, c.isAlpha
  depth : levels.length ≤ 4
  isLevel : ∀ level ∈ levels, IsLevel digit level.2
  dash : ∀ level ∈ levels.head?, level.1 = '-'
  separated : ∀ level ∈ levels.tail, level.1 ∈ separators

section

variable {digit : Char → Bool} {separators letters cs : List Char}
  {levels : List (Char × List Char)}

instance : Decidable (IsLevel digit cs) := decidable_of_iff' _ (isLevel_iff digit cs)

instance : Decidable (IsCodeOf digit separators letters levels) :=
  decidable_of_iff' _ (isCodeOf_iff digit separators letters levels)

end

def HasCodeShape (digit : Char → Bool) (separators cs : List Char) : Prop :=
  ∃ letters levels, IsCodeOf digit separators letters levels ∧ cs = codeChars letters levels

/-- A code as it is documented. -/
def IsDocumentedCode (s : String) : Prop := HasCodeShape Char.isDigit ['.', '-'] s.toList

/-! ### What is recognised -/

section

variable {cs : List Char}

theorem matches_level_iff : Matches level cs ↔ IsLevel isDecimal cs := by
  rw [level, matches_between_one_iff]
  exact ⟨fun h => ⟨h.1.1, h.1.2, h.2⟩, fun h => ⟨⟨h.some, h.short⟩, h.digits⟩⟩

theorem matches_letters_iff : Matches (between asciiLetter 1 1) cs ↔
    (1 ≤ cs.length ∧ cs.length ≤ 2) ∧ ∀ c ∈ cs, c.isAlpha := matches_between_one_iff

/-- A level and the mark before it. -/
theorem matches_marked_iff {mark : Char} : Matches (seq (char mark) level) cs ↔
    ∃ digits, IsLevel isDecimal digits ∧ cs = mark :: digits := by
  simp only [matches_seq_iff, matches_char_iff, matches_level_iff]
  constructor
  · rintro ⟨_, digits, rfl, hlevel, rfl⟩
    exact ⟨digits, hlevel, rfl⟩
  · rintro ⟨digits, hlevel, rfl⟩
    exact ⟨[mark], digits, rfl, hlevel, rfl⟩

theorem matches_laterLevels_iff {n : Nat} : Matches (upTo (seq (char '.') level) n) cs ↔
    ∃ levels : List (Char × List Char), levels.length ≤ n ∧
      (∀ level ∈ levels, level.1 = '.' ∧ IsLevel isDecimal level.2) ∧
        cs = levels.flatMap fun level => level.1 :: level.2 := by
  rw [matches_upTo_iff]
  constructor
  · rintro ⟨parts, hfew, hparts, rfl⟩
    refine ⟨parts.map fun t => ('.', t.tail), by simpa using hfew, ?_, ?_⟩
    · intro level hlevel
      obtain ⟨t, ht, rfl⟩ := List.mem_map.mp hlevel
      obtain ⟨digits, hdigits, rfl⟩ := matches_marked_iff.mp (hparts t ht)
      exact ⟨rfl, hdigits⟩
    · rw [List.flatMap_map, List.flatten_eq_flatMap]
      refine List.flatMap_congr fun t ht => ?_
      obtain ⟨digits, -, rfl⟩ := matches_marked_iff.mp (hparts t ht)
      rfl
  · rintro ⟨levels, hfew, hlevels, rfl⟩
    refine ⟨levels.map fun level => level.1 :: level.2, by simpa using hfew, ?_, ?_⟩
    · intro t ht
      obtain ⟨level, hlevel, rfl⟩ := List.mem_map.mp ht
      obtain ⟨hmark, hdigits⟩ := hlevels level hlevel
      exact matches_marked_iff.mpr ⟨level.2, hdigits, by rw [hmark]⟩
    · rw [List.flatMap_def]

/-- A text is taken for a code exactly if it is letters and decimal levels with points between
them. -/
theorem isCode_iff {text : String} :
    isCode text ↔ HasCodeShape isDecimal ['.'] text.toList := by
  rw [isCode, accepts_iff, codePattern, matches_seq_iff]
  simp only [matches_letters_iff, matches_optional_iff]
  constructor
  · rintro ⟨letters, rest, ⟨⟨hsome, hfew⟩, halpha⟩, hrest, htext⟩
    rcases hrest with hbehind | rfl
    · obtain ⟨_, _, hdash, ⟨digits, _, hfirst, ⟨later, _, hlater, hend, rfl⟩, rfl⟩, rfl⟩ := by
        simpa only [Pattern.all, List.foldr, matches_seq_iff] using hbehind
      obtain rfl := matches_char_iff.mp hdash
      obtain rfl := matches_empty_iff.mp hend
      obtain ⟨levels, hdepth, hlevels, rfl⟩ := matches_laterLevels_iff.mp hlater
      refine ⟨letters, ('-', digits) :: levels, ⟨hsome, hfew, halpha, ?_, ?_, ?_, ?_⟩, ?_⟩
      · exact Nat.succ_le_succ hdepth
      · exact List.forall_mem_cons.mpr
          ⟨matches_level_iff.mp hfirst, fun level hlevel => (hlevels level hlevel).2⟩
      · simp
      · intro level hlevel
        rw [(hlevels level hlevel).1]
        exact List.mem_singleton_self '.'
      · rw [htext]
        simp [codeChars]
    · refine ⟨letters, [], ⟨hsome, hfew, halpha, Nat.zero_le _, ?_, ?_, ?_⟩, htext⟩
      all_goals simp
  · rintro ⟨letters, levels, ⟨hsome, hfew, halpha, hdepth, hlevels, hdash, hseparated⟩, htext⟩
    refine ⟨letters, _, ⟨⟨hsome, hfew⟩, halpha⟩, ?_, htext⟩
    cases levels with
    | nil => exact .inr rfl
    | cons first levels =>
        left
        rw [List.forall_mem_cons] at hlevels
        have hlater : Matches (upTo (seq (char '.') Query.level) 3)
            (levels.flatMap fun level => level.1 :: level.2) := by
          refine matches_laterLevels_iff.mpr
            ⟨levels, Nat.le_of_succ_le_succ hdepth, fun level hmem => ?_, rfl⟩
          exact ⟨List.mem_singleton.mp (hseparated level hmem), hlevels.2 level hmem⟩
        have hmark : first.1 = '-' := hdash first rfl
        have hall := Matches.seq (matches_char_iff.mpr rfl : Matches (char '-') ['-'])
          (.seq (matches_level_iff.mpr hlevels.1) (.seq hlater .empty))
        simpa [Pattern.all, hmark] using hall

end

/-! ### The two shapes -/

section

variable {digit : Char → Bool} {separators letters cs : List Char}
  {levels : List (Char × List Char)}

theorem mem_codeChars {c : Char} : c ∈ codeChars letters levels ↔
    c ∈ letters ∨ c ∈ levels.map Prod.fst ∨ ∃ level ∈ levels, c ∈ level.2 := by
  simp only [codeChars, List.mem_append, List.mem_flatMap, List.mem_cons, List.mem_map]
  constructor
  · rintro (hletter | ⟨level, hlevel, rfl | hdigit⟩)
    · exact .inl hletter
    · exact .inr (.inl ⟨level, hlevel, rfl⟩)
    · exact .inr (.inr ⟨level, hlevel, hdigit⟩)
  · rintro (hletter | ⟨level, hlevel, rfl⟩ | ⟨level, hlevel, hdigit⟩)
    · exact .inl hletter
    · exact .inr ⟨level, hlevel, .inl rfl⟩
    · exact .inr ⟨level, hlevel, .inr hdigit⟩

theorem count_codeChars {mark : Char} (hletters : mark ∉ letters)
    (hlevels : ∀ level ∈ levels, mark ∉ level.2) :
    (codeChars letters levels).count mark = (levels.map Prod.fst).count mark := by
  rw [codeChars, List.count_append, List.count_eq_zero.mpr hletters, Nat.zero_add]
  induction levels with
  | nil => rfl
  | cons level levels ih =>
      rw [List.forall_mem_cons] at hlevels
      rw [List.flatMap_cons, List.cons_append, List.count_cons, List.count_append,
        List.count_eq_zero.mpr hlevels.1, ih hlevels.2, Nat.zero_add, List.map_cons,
        List.count_cons]

/-- The dashes of a code are marks of its levels. -/
theorem IsCodeOf.count_dash (h : IsCodeOf digit separators letters levels)
    (hdash : digit '-' = false) :
    (codeChars letters levels).count '-' = (levels.map Prod.fst).count '-' := by
  refine count_codeChars (fun hmem => ?_) fun level hlevel hmem => ?_
  · exact absurd (h.alpha '-' hmem) (by decide)
  · have hdigit := (h.isLevel level hlevel).digits '-' hmem
    rw [hdash] at hdigit
    exact absurd hdigit Bool.false_ne_true

theorem IsCodeOf.mem_marks (h : IsCodeOf digit separators letters levels) {mark : Char}
    (hmark : mark ∈ levels.map Prod.fst) : mark = '-' ∨ mark ∈ separators := by
  obtain ⟨level, hlevel, rfl⟩ := List.mem_map.mp hmark
  cases levels with
  | nil => cases hlevel
  | cons first levels =>
      rcases List.mem_cons.mp hlevel with rfl | hlevel
      · exact .inl (h.dash _ rfl)
      · exact .inr (h.separated level hlevel)

theorem IsLevel.imp {digit' : Char → Bool} (h : IsLevel digit cs)
    (hdigits : ∀ c ∈ cs, digit c → digit' c) : IsLevel digit' cs :=
  ⟨h.some, h.short, fun c hc => hdigits c hc (h.digits c hc)⟩

/-- The marks of a code whose levels are not separated by dashes hold one dash at most. -/
theorem IsCodeOf.count_marks_le (h : IsCodeOf digit separators letters levels)
    (hseparators : '-' ∉ separators) : (levels.map Prod.fst).count '-' ≤ 1 := by
  cases levels with
  | nil => exact Nat.zero_le 1
  | cons first levels =>
      have hlater : (levels.map Prod.fst).count '-' = 0 := by
        rw [List.count_eq_zero]
        intro hmem
        obtain ⟨level, hlevel, hmark⟩ := List.mem_map.mp hmem
        exact hseparators (hmark ▸ h.separated level hlevel)
      rw [List.map_cons, List.count_cons, hlater, Nat.zero_add]
      split_ifs <;> decide

/-- If there is one dash at most, the levels are not separated by dashes. -/
theorem IsCodeOf.ne_dash (h : IsCodeOf digit separators letters levels)
    (hcount : (levels.map Prod.fst).count '-' ≤ 1) : ∀ level ∈ levels.tail, level.1 ≠ '-' := by
  cases levels with
  | nil => simp
  | cons first levels =>
      rw [List.map_cons, h.dash first rfl, List.count_cons_self, Nat.succ_le_succ_iff,
        Nat.le_zero, List.count_eq_zero] at hcount
      exact fun level hlevel hmark => hcount (hmark ▸ List.mem_map_of_mem hlevel)

end

section

variable {c : Char} {cs : List Char} {query : String}

theorem isDecimal_of_isDigit (hc : c.isDigit) : isDecimal c := by
  rw [isDecimal, if_pos (isAscii_of_isDigit hc), hc]

theorem not_isDecimal_of_isAlpha (hc : c.isAlpha) : isDecimal c = false := by
  have hall : ∀ n < 128, (Char.ofNat n).isAlpha → isDecimal (.ofNat n) = false := by
    decide +kernel
  exact of_isAscii (P := fun c => c.isAlpha → isDecimal c = false) hall (isAscii_of_isAlpha hc) hc

/-- A documented code is recognised unless a dash stands between two of its levels. -/
theorem hasCodeShape_iff_count (hcs : HasCodeShape Char.isDigit ['.', '-'] cs) :
    HasCodeShape isDecimal ['.'] cs ↔ cs.count '-' ≤ 1 := by
  constructor
  · rintro ⟨letters, levels, hcode, rfl⟩
    rw [hcode.count_dash (by decide)]
    exact hcode.count_marks_le (by decide)
  · intro hcount
    obtain ⟨letters, levels, hcode, rfl⟩ := hcs
    rw [hcode.count_dash (by decide)] at hcount
    refine ⟨letters, levels, ⟨hcode.some, hcode.few, hcode.alpha, hcode.depth, ?_, hcode.dash, ?_⟩,
      rfl⟩
    · exact fun level hlevel =>
        (hcode.isLevel level hlevel).imp fun _ _ hdigit => isDecimal_of_isDigit hdigit
    · intro level hlevel
      have hmark := hcode.ne_dash hcount level hlevel
      simpa [hmark] using hcode.separated level hlevel

/-- A recognised code is a documented one unless one of its digits is not of ASCII. -/
theorem hasCodeShape_iff_isDigit (hcs : HasCodeShape isDecimal ['.'] cs) :
    HasCodeShape Char.isDigit ['.', '-'] cs ↔ ∀ c ∈ cs, isDecimal c → c.isDigit := by
  constructor
  · rintro ⟨letters, levels, hcode, rfl⟩ c hc hdecimal
    rcases mem_codeChars.mp hc with hletter | hmark | ⟨level, hlevel, hdigit⟩
    · rw [not_isDecimal_of_isAlpha (hcode.alpha c hletter)] at hdecimal
      exact absurd hdecimal Bool.false_ne_true
    · have hmarks : ∀ mark ∈ ['-', '.'], isDecimal mark = false := by decide
      have hmem : c ∈ ['-', '.'] := by
        simpa [or_comm] using hcode.mem_marks hmark
      rw [hmarks c hmem] at hdecimal
      exact absurd hdecimal Bool.false_ne_true
    · exact (hcode.isLevel level hlevel).digits c hdigit
  · intro hdigits
    obtain ⟨letters, levels, hcode, rfl⟩ := hcs
    refine ⟨letters, levels, ⟨hcode.some, hcode.few, hcode.alpha, hcode.depth, ?_, hcode.dash, ?_⟩,
      rfl⟩
    · intro level hlevel
      refine (hcode.isLevel level hlevel).imp fun c hc => hdigits c ?_
      exact mem_codeChars.mpr (.inr (.inr ⟨level, hlevel, hc⟩))
    · intro level hlevel
      rw [List.mem_singleton.mp (hcode.separated level hlevel)]
      exact List.mem_cons_self

theorem isCodeQuery_iff : isCodeQuery query ↔ HasCodeShape isDecimal ['.'] (trim query).toList :=
  isCode_iff

theorem enrich_isCode (s : Sources) (version : Version) (query : String) (disableIntent : Bool) :
    (enrich s version query disableIntent).isCode = isCodeQuery query := by
  cases version <;>
    rw [enrich, Version.stages, runStages_cons, Stage.step_codeDetection,
      runStages_isCode s (by decide), detectCode_isCode, Context.ofQuery_query, isCodeQuery]

/-- A query is recognised as a code exactly if it is letters and decimal levels with points between
them, and enrichment finds the same in any version. This is what is documented, unless the query is
a documented code with a dash between two levels, or is recognised with a digit of another script
than ASCII. -/
theorem code_recognised_iff (query : String) :
    (isCodeQuery query ↔ HasCodeShape isDecimal ['.'] (trim query).toList) ∧
    ((isCodeQuery query ↔ IsDocumentedCode (trim query)) ↔
      (IsDocumentedCode (trim query) → (trim query).toList.count '-' ≤ 1) ∧
        (isCodeQuery query → ∀ c ∈ (trim query).toList, isDecimal c → c.isDigit)) ∧
    ∀ (s : Sources) (version : Version) (disableIntent : Bool),
      (enrich s version query disableIntent).isCode = isCodeQuery query := by
  refine ⟨isCodeQuery_iff, ?_, fun s version disableIntent => enrich_isCode s _ _ _⟩
  rw [isCodeQuery_iff]
  refine (iff_iff_implies_and_implies.trans and_comm).trans (and_congr ?_ ?_)
  · exact forall_congr' fun hdocumented => hasCodeShape_iff_count hdocumented
  · exact forall_congr' fun hrecognised => hasCodeShape_iff_isDigit hrecognised

/-- A code that is documented is not recognised, and one that is recognised is not documented. -/
theorem exists_code_misread : (∃ query, IsDocumentedCode (trim query) ∧ isCodeQuery query = false) ∧
    ∃ query, isCodeQuery query = true ∧ ¬ IsDocumentedCode (trim query) := by
  constructor
  · have hcode : IsCodeOf Char.isDigit ['.', '-'] ['B', 'D']
        [('-', ['1', '8', '0', '0']), ('.', ['2', '0', '0', '0']), ('-', ['3', '0', '0'])] := by
      decide
    exact ⟨"BD-1800.2000-300", ⟨_, _, hcode, by decide +kernel⟩, by decide +kernel⟩
  · have hrecognised : isCodeQuery "BD-١٨٠٠" = true := by decide +kernel
    refine ⟨"BD-١٨٠٠", hrecognised, fun hdocumented => ?_⟩
    have hdigits := (hasCodeShape_iff_isDigit (isCodeQuery_iff.mp hrecognised)).mp hdocumented
    exact absurd (hdigits '١' (by decide +kernel) (by decide +kernel)) (by decide)

end

end HybridSearch.Query
