import HybridSearch.Decimal.Literal
import HybridSearch.Proofs.Double
import HybridSearch.Proofs.Rounding
import Mathlib.Data.List.TakeWhile

/-!
# Doubles written out

A finite double is written with digits, at most one point and at most a sign. What is written can be
read as a decimal, and the decimal rounds to the double. So two finite doubles are written alike
only if they have the same bits; the two zeros are not.
-/

namespace HybridSearch

/-! ### Digits with a point -/

namespace Decimal

/-- The number that digits with a point stand for. -/
def readPlain (cs : List Char) : ℚ :=
  natOfDigits (cs.filter Char.isDigit) / 10 ^ (cs.dropWhile (· ≠ '.')).tail.length

theorem natOfDigits_eq (ds : List Char) : natOfDigits ds = Nat.ofDigitChars 10 ds 0 := rfl

theorem natOfDigits_append_zeros (ds : List Char) (n : ℕ) :
    natOfDigits (ds ++ List.replicate n '0') = 10 ^ n * natOfDigits ds := by
  rw [natOfDigits_eq, Nat.ofDigitChars_append, Nat.ofDigitChars_replicate_zero, natOfDigits_eq]

theorem natOfDigits_zeros_append (n : ℕ) (ds : List Char) :
    natOfDigits (List.replicate n '0' ++ ds) = natOfDigits ds := by
  rw [natOfDigits_eq, Nat.ofDigitChars_append, Nat.ofDigitChars_replicate_zero, Nat.mul_zero,
    natOfDigits_eq]

theorem isDigit_of_mem_digitChars {d : Decimal} {c : Char} (hc : c ∈ d.digitChars) : c.isDigit :=
  Nat.isDigit_of_mem_toDigits (by decide) (by decide) hc

theorem natOfDigits_digitChars (d : Decimal) : natOfDigits d.digitChars = d.digits :=
  Nat.ofDigitChars_ten_toDigits

theorem length_digitChars_pos (d : Decimal) : 0 < d.digitChars.length := Nat.length_toDigits_pos

theorem isDigit_of_mem_zeros {n : ℕ} {c : Char} (hc : c ∈ List.replicate n '0') : c.isDigit := by
  rw [List.eq_of_mem_replicate hc]
  decide

theorem ne_point_of_isDigit {c : Char} (hc : c.isDigit) : c ≠ '.' := by
  rintro rfl
  cases hc

theorem readPlain_of_digits {ds : List Char} (hds : ∀ c ∈ ds, c.isDigit) :
    readPlain ds = natOfDigits ds := by
  have hpoint : ds.dropWhile (· ≠ '.') = [] := by
    rw [List.dropWhile_eq_nil_iff]
    exact fun c hc => decide_eq_true (ne_point_of_isDigit (hds c hc))
  rw [readPlain, List.filter_eq_self.mpr hds, hpoint]
  simp

theorem readPlain_point {whole fraction : List Char} (hwhole : ∀ c ∈ whole, c.isDigit)
    (hfraction : ∀ c ∈ fraction, c.isDigit) : readPlain (whole ++ '.' :: fraction)
      = natOfDigits (whole ++ fraction) / 10 ^ fraction.length := by
  have hdigits : (whole ++ '.' :: fraction).filter Char.isDigit = whole ++ fraction := by
    rw [List.filter_append, List.filter_cons_of_neg (by decide), List.filter_eq_self.mpr hwhole,
      List.filter_eq_self.mpr hfraction]
  have hpoint : (whole ++ '.' :: fraction).dropWhile (· ≠ '.') = '.' :: fraction := by
    rw [List.dropWhile_append_of_pos, List.dropWhile_cons_of_neg (by decide)]
    exact fun c hc => decide_eq_true (ne_point_of_isDigit (hwhole c hc))
  rw [readPlain, hdigits, hpoint, List.tail_cons]

theorem readPlain_plainChars (d : Decimal) : readPlain d.plainChars = d.value := by
  have hpos := d.length_digitChars_pos
  have hdigits : ∀ c ∈ d.digitChars, c.isDigit := fun _ => isDigit_of_mem_digitChars
  simp only [plainChars]
  split_ifs with hwhole hpart
  -- No digit stands behind the point, and zeros may be missing before it.
  · rw [readPlain_of_digits, natOfDigits_append_zeros, natOfDigits_digitChars, value, Nat.cast_mul,
      mul_comm, Nat.cast_pow, ← zpow_natCast, Int.toNat_of_nonneg hwhole]
    · rfl
    · exact List.forall_mem_append.mpr ⟨hdigits, fun _ => isDigit_of_mem_zeros⟩
  -- The point stands among the digits.
  · have hlength : ((d.digitChars.drop (d.digitChars.length + d.exponent).toNat).length : ℤ)
        = -d.exponent := by
      rw [List.length_drop]
      omega
    rw [readPlain_point (fun c hc => hdigits c (List.mem_of_mem_take hc))
        (fun c hc => hdigits c (List.mem_of_mem_drop hc)), List.take_append_drop,
      natOfDigits_digitChars, ← zpow_natCast, hlength, zpow_neg, div_inv_eq_mul, value]
  -- The point stands before them, and zeros behind it.
  · have hzeros : ∀ c ∈ List.replicate (-(d.digitChars.length + d.exponent)).toNat '0'
        ++ d.digitChars, c.isDigit :=
      List.forall_mem_append.mpr ⟨fun _ => isDigit_of_mem_zeros, hdigits⟩
    have hlength : ((List.replicate (-(d.digitChars.length + d.exponent)).toNat '0'
        ++ d.digitChars).length : ℤ) = -d.exponent := by
      rw [List.length_append, List.length_replicate]
      omega
    have hlead : ∀ c ∈ List.replicate 1 '0', c.isDigit := fun _ => isDigit_of_mem_zeros
    have hread := readPlain_point hlead hzeros
    rw [natOfDigits_zeros_append, natOfDigits_zeros_append, natOfDigits_digitChars,
      ← zpow_natCast, hlength, zpow_neg, div_inv_eq_mul] at hread
    exact hread

theorem digit_or_point_of_mem_plainChars {d : Decimal} {c : Char} (hc : c ∈ d.plainChars) :
    c.isDigit ∨ c = '.' := by
  simp only [plainChars] at hc
  split_ifs at hc
  · rcases List.mem_append.mp hc with hdigit | hzero
    · exact .inl (isDigit_of_mem_digitChars hdigit)
    · exact .inl (isDigit_of_mem_zeros hzero)
  · rcases List.mem_append.mp hc with hwhole | hrest
    · exact .inl (isDigit_of_mem_digitChars (List.mem_of_mem_take hwhole))
    · rcases List.mem_cons.mp hrest with hpoint | hfraction
      · exact .inr hpoint
      · exact .inl (isDigit_of_mem_digitChars (List.mem_of_mem_drop hfraction))
  · simp only [List.mem_cons, List.mem_append] at hc
    rcases hc with rfl | rfl | hzero | hdigit
    · exact .inl (by decide)
    · exact .inr rfl
    · exact .inl (isDigit_of_mem_zeros hzero)
    · exact .inl (isDigit_of_mem_digitChars hdigit)

end Decimal

/-! ### Finite doubles -/

theorem toBits_injective : Function.Injective Float.toBits := by
  intro x y hbits
  have hscore : Score.ofFloat x = Score.ofFloat y := congrArg Score.mk hbits
  rw [← Score.toFloat_ofFloat x, hscore, Score.toFloat_ofFloat]

theorem exponent_lt_of_isFinite {x : Float} (hx : x.isFinite) :
    x.toBits.toNat / 2 ^ 52 % 2 ^ 11 < 2047 := by
  have hfinite : (Score.ofFloat x).isFinite := by
    rwa [← Score.isFinite_toFloat, Score.toFloat_ofFloat]
  have hones := Score.isFinite_iff.mp hfinite
  rw [Ne, Score.exponent_eq_ones_iff] at hones
  change x.toBits.toNat / 2 ^ 52 % 2 ^ 11 ≠ 2047 at hones
  omega

namespace Magnitude

theorem isNormalized_ofFloat {x : Float} (hx : x.isFinite) : (ofFloat x).IsNormalized := by
  have hexponent := exponent_lt_of_isFinite hx
  have hmantissa : x.toBits.toNat % 2 ^ 52 < 2 ^ 52 := Nat.mod_lt _ (by decide)
  simp only [ofFloat, ofBits, Nat.pow_eq]
  split_ifs with hleast
  · constructor <;> dsimp only <;> omega
  · constructor <;> dsimp only <;> omega

/-- A double is its sign and its magnitude. -/
theorem eq_of_ofFloat {x y : Float} (hsign : isNegative x = isNegative y)
    (hsame : ofFloat x = ofFloat y) : x = y := by
  apply toBits_injective
  rw [← UInt64.toNat_inj]
  have hx : x.toBits.toNat < 2 ^ 64 := x.toBits.toNat_lt
  have hy : y.toBits.toNat < 2 ^ 64 := y.toBits.toNat_lt
  have hleast : (0x8000000000000000 : UInt64).toNat = 2 ^ 63 := rfl
  simp only [isNegative, decide_eq_decide, UInt64.le_iff_toNat_le, hleast] at hsign
  simp only [ofFloat, ofBits, Nat.pow_eq] at hsame
  split_ifs at hsame <;> simp only [mk.injEq] at hsame <;> omega

end Magnitude

theorem plainNumber_of_isFinite {x : Float} (hx : x.isFinite) :
    plainNumber x = .ofList (signed x (Decimal.shortest (.ofFloat x)).plainChars) := by
  rw [plainNumber, isNaN_of_isFinite hx, isInf_of_isFinite hx]
  rfl

theorem mem_plainNumber {x : Float} (hx : x.isFinite) {c : Char} (hc : c ∈ (plainNumber x).toList) :
    c.isDigit ∨ c = '.' ∨ c = '-' := by
  rw [plainNumber_of_isFinite hx, String.toList_ofList, signed] at hc
  split_ifs at hc
  · rcases List.mem_cons.mp hc with hsign | hc
    · exact .inr (.inr hsign)
    · exact (Decimal.digit_or_point_of_mem_plainChars hc).imp_right .inl
  · exact (Decimal.digit_or_point_of_mem_plainChars hc).imp_right .inl

/-- A sign is written if there is one, since no digits begin with it. -/
theorem sign_eq_of_signed {x y : Float} {d d' : Decimal}
    (hsame : signed x d.plainChars = signed y d'.plainChars) :
    isNegative x = isNegative y ∧ d.plainChars = d'.plainChars := by
  have hminus (d : Decimal) (rest : List Char) : d.plainChars ≠ '-' :: rest := by
    intro hfirst
    have hmem : '-' ∈ d.plainChars := hfirst ▸ List.mem_cons_self
    rcases Decimal.digit_or_point_of_mem_plainChars hmem with h | h <;> cases h
  unfold signed at hsame
  split_ifs at hsame with hx hy hy
  · exact ⟨hx.trans hy.symm, (List.cons.inj hsame).2⟩
  · exact absurd hsame.symm (hminus d' _)
  · exact absurd hsame (hminus d _)
  · exact ⟨(Bool.eq_false_iff.mpr hx).trans (Bool.eq_false_iff.mpr hy).symm, hsame⟩

/-- A finite double is written as no other. -/
theorem plainNumber_inj {x y : Float} (hx : x.isFinite) :
    plainNumber x = plainNumber y ↔ x = y := by
  refine ⟨fun hsame => ?_, congrArg plainNumber⟩
  by_cases hy : y.isFinite
  · rw [plainNumber_of_isFinite hx, plainNumber_of_isFinite hy, String.ofList_inj] at hsame
    obtain ⟨hsign, hchars⟩ := sign_eq_of_signed hsame
    have hvalue := congrArg Decimal.readPlain hchars
    rw [Decimal.readPlain_plainChars, Decimal.readPlain_plainChars] at hvalue
    exact Magnitude.eq_of_ofFloat hsign (Decimal.shortest_injective
      (Magnitude.isNormalized_ofFloat hx) (Magnitude.isNormalized_ofFloat hy) hvalue)
  -- What is not finite is a word, and the words have an n in them.
  · exfalso
    have hword : 'N' ∈ (plainNumber y).toList ∨ 'n' ∈ (plainNumber y).toList := by
      rw [plainNumber]
      rcases isNaN_or_isInf_of_not_isFinite hy with hnan | hinf
      · rw [if_pos hnan]
        decide
      · rw [if_pos hinf]
        split_ifs <;> decide
    rw [← hsame] at hword
    rcases hword with hn | hn
    · rcases mem_plainNumber hx hn with h | h | h <;> cases h
    · rcases mem_plainNumber hx hn with h | h | h <;> cases h

end HybridSearch
