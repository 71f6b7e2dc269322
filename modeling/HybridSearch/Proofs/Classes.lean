import HybridSearch.Proofs.Ascii
import Mathlib.Data.List.Chain
import Mathlib.Data.List.Sort
import Mathlib.Data.List.TakeWhile

/-!
# Classes of characters

Above ASCII a class is a table of ranges, and a class lies inside another, or apart from it, when
its ranges do. So blanks are neither letters nor digits nor marks, digits are characters of words,
and lowercase, which changes letters only, puts letters and their marks in their place.
-/

namespace HybridSearch.Text

/-! ### Deciding a property of some characters -/

section Decidability

variable {P : Char → Prop} [DecidablePred P]

-- Found before the instance that goes through all characters there are.
instance (priority := high) decidableForallMem (cs : List Char) : Decidable (∀ c ∈ cs, P c) :=
  List.decidableBAll P cs

instance (priority := high) decidableForallMem? (c? : Option Char) :
    Decidable (∀ c ∈ c?, P c) :=
  Option.decidableForallMem c?

end Decidability

/-! ### Tables of ranges -/

/-- The ranges of a table, each with the place where it ends. -/
def ranges : List Nat → List (Nat × Nat)
  | first :: stop :: rest => (first, stop) :: ranges rest
  | _ => []

/-- Where ranges end before the next begins. -/
structure IsTable (bounds : List Nat) : Prop where
  ordered : bounds.IsChain (· < ·)
  even : bounds.length % 2 = 0

instance (bounds : List Nat) : Decidable (IsTable bounds) :=
  decidable_of_iff (bounds.IsChain (· < ·) ∧ bounds.length % 2 = 0)
    ⟨fun h => ⟨h.1, h.2⟩, fun h => ⟨h.ordered, h.even⟩⟩

theorem within_cons_cons {first stop n : Nat} {rest : List Nat}
    (hordered : (first :: stop :: rest).IsChain (· < ·)) :
    within (first :: stop :: rest) n ↔ (first ≤ n ∧ n < stop) ∨ within rest n := by
  rw [List.isChain_iff_pairwise] at hordered
  obtain ⟨hfirst, hstop, -⟩ := by simpa only [List.pairwise_cons] using hordered
  have hbefore (hlt : n < stop) : rest.takeWhile (· ≤ n) = [] := by
    cases rest with
    | nil => rfl
    | cons next rest =>
        have := hstop next List.mem_cons_self
        exact List.takeWhile_cons_of_neg (by simp; omega)
  have hlt : first < stop := hfirst stop List.mem_cons_self
  by_cases hn : first ≤ n
  · by_cases hn' : stop ≤ n
    · simp only [within, hn, hn', List.takeWhile_cons, decide_true, ↓reduceIte, List.length_cons,
        Nat.not_lt.mpr hn', and_false, false_or, decide_eq_true_eq]
      omega
    · simp [within, hn, hn', hbefore (Nat.not_le.mp hn'), Nat.not_le.mp hn']
  · simp [within, hn, hbefore (by omega)]

theorem within_iff {bounds : List Nat} (htable : IsTable bounds) {n : Nat} :
    within bounds n ↔ ∃ r ∈ ranges bounds, r.1 ≤ n ∧ n < r.2 := by
  obtain ⟨hordered, heven⟩ := htable
  induction bounds using ranges.induct with
  | case1 first stop rest ih =>
      have hrest : rest.IsChain (· < ·) := hordered.tail.tail
      rw [within_cons_cons hordered, ih hrest (by simp only [List.length_cons] at heven; omega)]
      simp [ranges]
  | case2 bounds hshort =>
      cases bounds with
      | nil => simp [ranges, within]
      | cons first rest =>
          cases rest with
          | nil => simp at heven
          | cons stop rest => exact absurd rfl (hshort first stop rest)

/-- The table of what a table leaves out below a bound. -/
def gaps (bounds : List Nat) (top : Nat) : List Nat := 0 :: bounds ++ [top]

theorem within_gaps {bounds : List Nat} {top n : Nat} (hn : n < top) :
    within (gaps bounds top) n = !within bounds n := by
  have hstop : (bounds ++ [top]).takeWhile (· ≤ n) = bounds.takeWhile (· ≤ n) := by
    rw [List.takeWhile_append]
    split_ifs with hall
    · rw [List.takeWhile_cons_of_neg (by simp; omega), List.append_nil]
      exact (List.takeWhile_prefix _).eq_of_length hall |>.symm
    · rfl
  simp only [within, gaps, List.cons_append, List.takeWhile_cons, Nat.zero_le, decide_true,
    ↓reduceIte, List.length_cons, hstop]
  by_cases hodd : (bounds.takeWhile (· ≤ n)).length % 2 = 1
  · simp [hodd, Nat.add_mod]
  · have heven : (bounds.takeWhile (· ≤ n)).length % 2 = 0 := by omega
    simp [heven, Nat.add_mod]

/-- Whether each range of the second list lies inside one of the first. Both are read in order. -/
def covers : List (Nat × Nat) → List (Nat × Nat) → Bool
  | [], xs => xs.isEmpty
  | s :: ys, xs => covers ys (xs.dropWhile fun r => s.1 ≤ r.1 && r.2 ≤ s.2)

theorem exists_of_covers {ys xs : List (Nat × Nat)} (hcovers : covers ys xs) {r : Nat × Nat}
    (hr : r ∈ xs) : ∃ s ∈ ys, s.1 ≤ r.1 ∧ r.2 ≤ s.2 := by
  induction ys generalizing xs with
  | nil =>
      rw [covers, List.isEmpty_iff] at hcovers
      simp [hcovers] at hr
  | cons s ys ih =>
      have hsplit := List.takeWhile_append_dropWhile
        (p := fun r : Nat × Nat => decide (s.1 ≤ r.1) && decide (r.2 ≤ s.2)) (l := xs)
      rw [← hsplit, List.mem_append] at hr
      rcases hr with hinside | hleft
      · have hrs := List.mem_takeWhile_imp hinside
        simp only [Bool.and_eq_true, decide_eq_true_eq] at hrs
        exact ⟨s, List.mem_cons_self, hrs⟩
      · obtain ⟨s', hs', hrs⟩ := ih hcovers hleft
        exact ⟨s', List.mem_cons_of_mem s hs', hrs⟩

theorem within_of_covers {xs : List (Nat × Nat)} {ys : List Nat} (hys : IsTable ys)
    (hcovers : covers (ranges ys) xs) {r : Nat × Nat} (hr : r ∈ xs) {n : Nat} (hn : r.1 ≤ n)
    (hn' : n < r.2) : within ys n := by
  obtain ⟨s, hs, hrs⟩ := exists_of_covers hcovers hr
  exact (within_iff hys).mpr ⟨s, hs, by omega, by omega⟩

/-! ### Classes above ASCII -/

/-- A class of characters with what it says on ASCII and its table above. -/
structure IsClass (p : Char → Bool) (bounds : List Nat) : Prop where
  eq_within : ∀ c, isAscii c = false → p c = within bounds c.toNat
  table : IsTable bounds

theorem isClass_isSpace : IsClass isSpace spaceBounds :=
  ⟨fun c hc => by simp [isSpace, hc], by decide +kernel⟩

theorem isClass_isWord : IsClass isWord wordBounds :=
  ⟨fun c hc => by simp [isWord, hc], by decide +kernel⟩

theorem isClass_isAlphanumeric : IsClass isAlphanumeric alphanumericBounds :=
  ⟨fun c hc => by simp [isAlphanumeric, hc], by decide +kernel⟩

theorem isClass_isDecimal : IsClass isDecimal decimalBounds :=
  ⟨fun c hc => by simp [isDecimal, hc], by decide +kernel⟩

theorem isClass_isCased : IsClass isCased casedBounds :=
  ⟨fun c hc => by simp [isCased, hc], by decide +kernel⟩

theorem isClass_isCaseIgnorable : IsClass isCaseIgnorable caseIgnorableBounds :=
  ⟨fun c hc => by simp [isCaseIgnorable, hc], by decide +kernel⟩

/-- One more than the greatest code of a character. -/
def lastChar : Nat := 0x110000

theorem toNat_lt_lastChar (c : Char) : c.toNat < lastChar := by
  have hvalid : c.toNat < 0xD800 ∨ 0xDFFF < c.toNat ∧ c.toNat < 0x110000 := c.valid
  unfold lastChar
  omega

section

variable {p q : Char → Bool} {xs ys : List Nat} {c : Char}

theorem IsClass.subset (hp : IsClass p xs) (hq : IsClass q ys)
    (hascii : ∀ n < 128, p (.ofNat n) → q (.ofNat n))
    (hcovers : covers (ranges ys) (ranges xs)) (hc : p c) : q c := by
  cases hcase : isAscii c with
  | true => exact of_isAscii (P := fun c => p c → q c) hascii hcase hc
  | false =>
      rw [hp.eq_within c hcase] at hc
      rw [hq.eq_within c hcase]
      obtain ⟨r, hr, hn, hn'⟩ := (within_iff hp.table).mp hc
      exact within_of_covers hq.table hcovers hr hn hn'

theorem IsClass.disjoint (hp : IsClass p xs) (hq : IsClass q ys)
    (hgaps : IsTable (gaps ys lastChar))
    (hascii : ∀ n < 128, p (.ofNat n) → q (.ofNat n) = false)
    (hcovers : covers (ranges (gaps ys lastChar)) (ranges xs)) (hc : p c) : q c = false := by
  cases hcase : isAscii c with
  | true => exact of_isAscii (P := fun c => p c → q c = false) hascii hcase hc
  | false =>
      rw [hp.eq_within c hcase] at hc
      rw [hq.eq_within c hcase]
      obtain ⟨r, hr, hn, hn'⟩ := (within_iff hp.table).mp hc
      have hgap := within_of_covers hgaps hcovers hr hn hn'
      rw [within_gaps (toNat_lt_lastChar c)] at hgap
      simpa using hgap

/-! ### Lowercase -/

/-- Where the runs of letters with a lowercase begin and end, the one run with gaps left out. -/
def capitalRanges : List (Nat × Nat) :=
  (lowercaseRuns.filter (·.first ≠ 0x1F59)).map fun run => (run.first, run.last + 1)

/-- Where their images begin and end, the one image in ASCII left out. -/
def smallRanges : List (Nat × Nat) :=
  ((lowercaseRuns.filter (·.first ≠ 0x212A)).map fun run =>
    ((run.first + run.shift).toNat, (run.last + run.shift).toNat + 1)).insertionSort (·.1 ≤ ·.1)

theorem within_of_contains (hq : IsClass q ys)
    (hgapped : ∀ n ∈ [0x1F59, 0x1F5B, 0x1F5D, 0x1F5F], within ys n)
    (hcovers : covers (ranges ys) capitalRanges) {run : CaseRun} (hrun : run ∈ lowercaseRuns)
    {n : Nat} (hn : run.contains n) : within ys n := by
  simp only [CaseRun.contains, Bool.and_eq_true, decide_eq_true_eq] at hn
  obtain ⟨⟨hfirst, hlast⟩, hstride⟩ := hn
  by_cases hrest : run.first = 0x1F59
  · have hone : ∀ run ∈ lowercaseRuns, run.first = 0x1F59 → run.last = 0x1F5F ∧ run.stride = 2 := by
      decide +kernel
    obtain ⟨hlast', hstride'⟩ := hone run hrun hrest
    rw [hrest] at hfirst hstride
    rw [hlast'] at hlast
    rw [hstride'] at hstride
    apply hgapped
    simp only [List.mem_cons, List.not_mem_nil, or_false]
    omega
  · have hkept : (run.first, run.last + 1) ∈ capitalRanges :=
      List.mem_map_of_mem (List.mem_filter.mpr ⟨hrun, by simpa using hrest⟩)
    exact within_of_covers hq.table hcovers hkept hfirst (Nat.lt_succ_of_le hlast)

theorem toNat_ofNat {n : Nat} (hn : n.isValidChar) : (Char.ofNat n).toNat = n := by
  rw [Char.ofNat, dif_pos hn]
  rfl

theorem image_of_contains (hq : IsClass q ys) (hcovers : covers (ranges ys) smallRanges)
    {run : CaseRun} (hrun : run ∈ lowercaseRuns) (hfirst : run.first ≠ 0x212A) {n : Nat}
    (hn : run.contains n) : q (.ofNat (n + run.shift).toNat) := by
  have hvalid : covers [(0x80, 0xD800), (0xE000, lastChar)] smallRanges := by decide +kernel
  simp only [CaseRun.contains, Bool.and_eq_true, decide_eq_true_eq] at hn
  have hsmall : ((run.first + run.shift).toNat, (run.last + run.shift).toNat + 1) ∈ smallRanges :=
    (List.mem_insertionSort _).mpr
      (List.mem_map_of_mem (List.mem_filter.mpr ⟨hrun, by simpa using hfirst⟩))
  have hlow : (run.first + run.shift).toNat ≤ (n + run.shift).toNat := by omega
  have hhigh : (n + run.shift).toNat < (run.last + run.shift).toNat + 1 := by omega
  have hchar : 0x80 ≤ (n + run.shift).toNat ∧ (n + run.shift).toNat.isValidChar := by
    obtain ⟨r, hr, hr₁, hr₂⟩ := exists_of_covers hvalid hsmall
    simp only [List.mem_cons, List.not_mem_nil, or_false, lastChar] at hr
    unfold Nat.isValidChar
    rcases hr with rfl | rfl <;> (simp only at hr₁ hr₂; omega)
  have hascii : isAscii (.ofNat (n + run.shift).toNat) = false := by
    rw [isAscii, toNat_ofNat hchar.2, decide_eq_false_iff_not]
    omega
  rw [hq.eq_within _ hascii, toNat_ofNat hchar.2]
  exact within_of_covers hq.table hcovers hsmall hlow hhigh

end

/-- A character that lowercase changes, and what it puts in its place. -/
structure IsCapital (c : Char) : Prop where
  word : isWord c
  alphanumeric : isAlphanumeric c
  image_word : ∀ d ∈ lowerChar c, isWord d
  image_alphanumeric : ∃ d ds, lowerChar c = d :: ds ∧ isAlphanumeric d

theorem isWord_image {run : CaseRun} (hrun : run ∈ lowercaseRuns) {n : Nat} (hn : run.contains n) :
    isWord (.ofNat (n + run.shift).toNat) ∧ isAlphanumeric (.ofNat (n + run.shift).toNat) := by
  by_cases hfirst : run.first = 0x212A
  · -- The sign for kelvin, whose image is the one in ASCII.
    have hone : ∀ run ∈ lowercaseRuns, run.first = 0x212A →
        run.last = 0x212A ∧ run.shift = -8383 := by
      decide +kernel
    obtain ⟨hlast, hshift⟩ := hone run hrun hfirst
    simp only [CaseRun.contains, Bool.and_eq_true, decide_eq_true_eq] at hn
    obtain rfl : n = 0x212A := by omega
    rw [hshift]
    decide +kernel
  · exact ⟨image_of_contains isClass_isWord (by decide +kernel) hrun hfirst hn,
      image_of_contains isClass_isAlphanumeric (by decide +kernel) hrun hfirst hn⟩

theorem isCapital_of_contains {c : Char} (hcase : isAscii c = false) {run : CaseRun}
    (hrun : run ∈ lowercaseRuns) (hn : run.contains c.toNat)
    (himage : lowerChar c = [.ofNat (c.toNat + run.shift).toNat]) : IsCapital c where
  word := by
    rw [isClass_isWord.eq_within c hcase]
    exact within_of_contains isClass_isWord (by decide +kernel) (by decide +kernel) hrun hn
  alphanumeric := by
    rw [isClass_isAlphanumeric.eq_within c hcase]
    exact within_of_contains isClass_isAlphanumeric (by decide +kernel) (by decide +kernel) hrun hn
  image_word := by
    rw [himage]
    simpa using (isWord_image hrun hn).1
  image_alphanumeric := ⟨_, [], himage, (isWord_image hrun hn).2⟩

theorem isCapital_dotted : IsCapital '\u0130' := by
  have hall : isWord '\u0130' ∧ isAlphanumeric '\u0130' ∧ lowerChar '\u0130' = ['i', '\u0307'] ∧
      (∀ d ∈ ['i', '\u0307'], isWord d) ∧ isAlphanumeric 'i' := by
    decide +kernel
  obtain ⟨hword, halphanumeric, himage, himages, hfirst⟩ := hall
  exact ⟨hword, halphanumeric, himage ▸ himages, 'i', ['\u0307'], himage, hfirst⟩

theorem lowerChar_cases_of_isAscii {c : Char} (hcase : isAscii c) :
    lowerChar c = [c] ∨ IsCapital c := by
  refine of_isAscii (P := fun c => lowerChar c = [c] ∨ IsCapital c) ?_ hcase
  intro n hn
  have hall : ∀ n < 128, lowerChar (.ofNat n) = [.ofNat n] ∨ isWord (.ofNat n) ∧
      isAlphanumeric (.ofNat n) ∧ lowerChar (.ofNat n) = [(Char.ofNat n).toLower] ∧
      isWord (Char.ofNat n).toLower ∧ isAlphanumeric (Char.ofNat n).toLower := by
    decide +kernel
  rcases hall n hn with hsame | ⟨hword, halphanumeric, himage, himages, hfirst⟩
  · exact .inl hsame
  · refine .inr ⟨hword, halphanumeric, ?_, _, [], himage, hfirst⟩
    rw [himage]
    simpa using himages

/-- Above ASCII the dotted capital is the only one with a lowercase of several characters. -/
theorem lowerChar_of_not_isAscii {c : Char} (hcase : isAscii c = false) (hdotted : c ≠ '\u0130') :
    lowerChar c = [c] ∨ ∃ run ∈ lowercaseRuns, run.contains c.toNat ∧
      lowerChar c = [.ofNat (c.toNat + run.shift).toNat] := by
  cases hfind : lowercaseRuns.find? (·.contains c.toNat) with
  | none =>
      left
      rw [lowerChar, hcase, if_neg (by decide), if_neg hdotted, hfind]
  | some run =>
      have hn : run.contains c.toNat := by simpa using List.find?_some hfind
      refine .inr ⟨run, List.mem_of_find?_eq_some hfind, hn, ?_⟩
      rw [lowerChar, hcase, if_neg (by decide), if_neg hdotted, hfind]

theorem lowerChar_cases (c : Char) : lowerChar c = [c] ∨ IsCapital c := by
  cases hcase : isAscii c with
  | true => exact lowerChar_cases_of_isAscii hcase
  | false =>
      by_cases hdotted : c = '\u0130'
      · exact .inr (hdotted ▸ isCapital_dotted)
      · refine (lowerChar_of_not_isAscii hcase hdotted).imp_right ?_
        rintro ⟨run, hrun, hn, himage⟩
        exact isCapital_of_contains hcase hrun hn himage

/-! ### Lowercase twice -/

namespace CaseRun

variable {run other : CaseRun} {n : Nat}

/-- Where the lowercase of the letters of a run stands. -/
def image (run : CaseRun) : CaseRun :=
  ⟨(run.first + run.shift).toNat, (run.last + run.shift).toNat, run.stride, 0⟩

/-- Whether one run ends before the other one begins, or stands in the gaps of the other. -/
def apart (run other : CaseRun) : Bool :=
  run.last.blt other.first || other.last.blt run.first ||
    (run.stride == 2 || run.first == run.last) && other.stride == 2 &&
      run.first % 2 != other.first % 2

theorem contains_image (hlow : 0 ≤ run.first + run.shift) (hn : run.contains n) :
    run.image.contains (n + run.shift).toNat := by
  simp only [contains, Bool.and_eq_true, decide_eq_true_eq] at hn
  obtain ⟨⟨hfirst, hlast⟩, hstride⟩ := hn
  have hsame : (n + run.shift).toNat - (run.first + run.shift).toNat = n - run.first := by omega
  simp only [contains, image, Bool.and_eq_true, hsame]
  exact ⟨⟨decide_eq_true (by omega), decide_eq_true (by omega)⟩, decide_eq_true hstride⟩

theorem contains_of_apart (hapart : run.apart other) (hn : run.contains n) :
    other.contains n = false := by
  rw [← Bool.not_eq_true]
  intro hother
  simp only [contains, Bool.and_eq_true, decide_eq_true_eq] at hn hother
  obtain ⟨⟨hfirst, hlast⟩, hstride⟩ := hn
  obtain ⟨⟨hfirst', hlast'⟩, hstride'⟩ := hother
  simp only [apart, Bool.or_eq_true, Bool.and_eq_true, Nat.blt_eq, beq_iff_eq, bne_iff_ne] at hapart
  rcases hapart with (hbefore | hafter) | ⟨⟨hgapped | hone, hgapped'⟩, hparity⟩
  · omega
  · omega
  · rw [hgapped] at hstride
    rw [hgapped'] at hstride'
    omega
  · rw [hgapped'] at hstride'
    omega

end CaseRun

/-- The letters that are not their own lowercase. -/
def capitalRuns : List CaseRun := ⟨0x41, 0x5A, 1, 32⟩ :: ⟨0x130, 0x130, 1, 0⟩ :: lowercaseRuns

theorem apart_capitalRuns :
    lowercaseRuns.all fun run => capitalRuns.all fun other => run.image.apart other := by
  decide +kernel

theorem lowerChar_eq_self {c : Char} (hnone : ∀ run ∈ capitalRuns, run.contains c.toNat = false) :
    lowerChar c = [c] := by
  rw [capitalRuns, List.forall_mem_cons, List.forall_mem_cons] at hnone
  obtain ⟨hascii, hdotted, hruns⟩ := hnone
  cases hcase : isAscii c with
  | true =>
      have hall : ∀ n < 128, CaseRun.contains ⟨0x41, 0x5A, 1, 32⟩ (Char.ofNat n).toNat = false →
          lowerChar (.ofNat n) = [.ofNat n] := by
        decide +kernel
      exact of_isAscii (P := fun c => CaseRun.contains ⟨0x41, 0x5A, 1, 32⟩ c.toNat = false →
        lowerChar c = [c]) hall hcase hascii
  | false =>
      have hother : c ≠ '\u0130' := by
        rintro rfl
        exact absurd hdotted (by decide)
      rcases lowerChar_of_not_isAscii hcase hother with hsame | ⟨run, hrun, hn, -⟩
      · exact hsame
      · rw [hruns run hrun] at hn
        cases hn

theorem lowerChar_image {run : CaseRun} (hrun : run ∈ lowercaseRuns) {n : Nat}
    (hn : run.contains n) :
    lowerChar (.ofNat (n + run.shift).toNat) = [.ofNat (n + run.shift).toNat] := by
  have hvalid : ∀ run ∈ lowercaseRuns, 0 ≤ run.first + run.shift ∧
      (run.last + run.shift < 0xD800 ∨
        0xE000 ≤ run.first + run.shift ∧ run.last + run.shift < 0x110000) := by
    decide +kernel
  have hbounds := hvalid run hrun
  have hchar : (n + run.shift).toNat.isValidChar := by
    simp only [CaseRun.contains, Bool.and_eq_true, decide_eq_true_eq] at hn
    unfold Nat.isValidChar
    omega
  refine lowerChar_eq_self fun other hother => ?_
  have hapart := List.all_eq_true.mp (List.all_eq_true.mp apart_capitalRuns run hrun) other hother
  rw [toNat_ofNat hchar]
  exact CaseRun.contains_of_apart hapart (CaseRun.contains_image hbounds.1 hn)

/-- What lowercase puts in the place of a character it leaves as it is. -/
theorem lowerChar_of_mem_lowerChar {c d : Char} (hd : d ∈ lowerChar c) : lowerChar d = [d] := by
  cases hcase : isAscii c with
  | true =>
      have hall : ∀ n < 128, ∀ d ∈ lowerChar (.ofNat n), lowerChar d = [d] := by decide +kernel
      exact of_isAscii (P := fun c => ∀ d ∈ lowerChar c, lowerChar d = [d]) hall hcase d hd
  | false =>
      by_cases hdotted : c = '\u0130'
      · have hall : ∀ d ∈ lowerChar '\u0130', lowerChar d = [d] := by decide +kernel
        exact hall d (hdotted ▸ hd)
      · rcases lowerChar_of_not_isAscii hcase hdotted with hsame | ⟨run, hrun, hn, himage⟩
        · obtain rfl : d = c := by simpa [hsame] using hd
          exact hsame
        · rw [himage, List.mem_singleton] at hd
          rw [hd]
          exact lowerChar_image hrun hn

/-! ### Blanks and digits -/

section

variable {c d : Char}

/-- What a blank counts as. -/
structure IsBlankChar (c : Char) : Prop where
  word : isWord c = false
  alphanumeric : isAlphanumeric c = false
  cased : isCased c = false
  caseIgnorable : isCaseIgnorable c = false
  lower : lowerChar c = [c]

theorem isBlankChar_of_isSpace (hc : isSpace c) : IsBlankChar c := by
  have hword : isWord c = false :=
    isClass_isSpace.disjoint isClass_isWord (by decide +kernel) (by decide +kernel)
      (by decide +kernel) hc
  refine ⟨hword, ?_, ?_, ?_, ?_⟩
  · exact isClass_isSpace.disjoint isClass_isAlphanumeric (by decide +kernel) (by decide +kernel)
      (by decide +kernel) hc
  · exact isClass_isSpace.disjoint isClass_isCased (by decide +kernel) (by decide +kernel)
      (by decide +kernel) hc
  · exact isClass_isSpace.disjoint isClass_isCaseIgnorable (by decide +kernel) (by decide +kernel)
      (by decide +kernel) hc
  · rcases lowerChar_cases c with hsame | hcapital
    · exact hsame
    · simp [hcapital.word] at hword

theorem not_isSpace_of_isWord (hc : isWord c) : isSpace c = false := by
  rw [← Bool.not_eq_true]
  intro hspace
  simp [(isBlankChar_of_isSpace hspace).word] at hc

theorem not_isSpace_of_isAlphanumeric (hc : isAlphanumeric c) : isSpace c = false := by
  rw [← Bool.not_eq_true]
  intro hspace
  simp [(isBlankChar_of_isSpace hspace).alphanumeric] at hc

theorem not_isSpace_of_mem_lowerChar (hc : isSpace c = false) (hd : d ∈ lowerChar c) :
    isSpace d = false := by
  rcases lowerChar_cases c with hsame | hcapital
  · rw [hsame, List.mem_singleton] at hd
    rwa [hd]
  · exact not_isSpace_of_isWord (hcapital.image_word d hd)

theorem lowerChar_ne_nil (c : Char) : lowerChar c ≠ [] := by
  rcases lowerChar_cases c with hsame | ⟨-, -, -, d, ds, himage, -⟩
  · simp [hsame]
  · simp [himage]

theorem isWord_of_isDecimal (hc : isDecimal c) : isWord c :=
  isClass_isDecimal.subset isClass_isWord (by decide +kernel) (by decide +kernel) hc

theorem isClass_not_isDecimal : IsClass (!isDecimal ·) (gaps decimalBounds lastChar) where
  eq_within := fun c hc => by
    rw [within_gaps (toNat_lt_lastChar c), isClass_isDecimal.eq_within c hc]
  table := by decide +kernel

/-- No digit has a lowercase of its own. -/
theorem lowerChar_of_isDecimal (hc : isDecimal c) : lowerChar c = [c] := by
  cases hcase : isAscii c with
  | true =>
      have hall : ∀ n < 128, isDecimal (.ofNat n) → lowerChar (.ofNat n) = [.ofNat n] := by
        decide +kernel
      exact of_isAscii (P := fun c => isDecimal c → lowerChar c = [c]) hall hcase hc
  | false =>
      have hdotted : c ≠ '\u0130' := by
        rintro rfl
        exact absurd hc (by decide +kernel)
      rcases lowerChar_of_not_isAscii hcase hdotted with hsame | ⟨run, hrun, hn, -⟩
      · exact hsame
      · have hgap := within_of_contains isClass_not_isDecimal (by decide +kernel)
          (by decide +kernel) hrun hn
        rw [← isClass_not_isDecimal.eq_within c hcase, hc] at hgap
        exact absurd hgap Bool.false_ne_true

end

end HybridSearch.Text
