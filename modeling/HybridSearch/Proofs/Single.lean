import HybridSearch.Decimal.Magnitude
import HybridSearch.Proofs.PlainNumber

/-!
# Which numbers have a single-precision neighbour

A double is rounded to the nearest number with a mantissa of 24 bits, and a result that reaches
`2 ^ 128` is infinite. That happens from halfway between the greatest single-precision number and
`2 ^ 128` on, and below it the result is finite, since its unit stays far from the greatest that a
double may have.
-/

namespace HybridSearch

open Float.Model Float.Model.UnpackedFloat DoubleBits

/-! ### The unit of a number -/

/-- Whether a number is finite and counted in units no greater than a power of two. -/
def UnitBelow (k : Int) : UnpackedFloat → Prop
  | .zero _ => True
  | .finite _ _ e _ => e ≤ k
  | _ => False

def HasUnit (x : Float) (k : Int) : Prop := UnitBelow k x.toModel.unpack

theorem UnitBelow.mono {k k' : Int} {a : UnpackedFloat} (ha : UnitBelow k a) (hk : k ≤ k') :
    UnitBelow k' a := by
  cases a with
  | zero sign => trivial
  | finite sign m e hm => exact le_trans ha hk
  | infinity sign => exact ha
  | notANumber => exact ha

/-- A pattern has the unit that its exponent gives. -/
theorem unitBelow_unpack {b : BitVec Format.binary64.numBits} {k : Int}
    (hfinite : (unpackExponent b).toNat < 2047) (hleast : -1074 ≤ k)
    (hunit : ((unpackExponent b).toNat : Int) - 1075 ≤ k) :
    UnitBelow k (UnpackedFloat.unpack .binary64 b) := by
  have hones : unpackExponent b ≠ -1#_ := by
    intro h
    rw [h] at hfinite
    exact absurd hfinite (by decide)
  refine unpack_cases (motive := UnitBelow k) b ?infinite ?undefined ?zero ?subnormal ?normal
  case infinite => exact fun h => absurd h hones
  case undefined => exact fun h => absurd h hones
  case zero => exact fun _ _ => trivial
  case subnormal => exact fun _ _ => hleast
  case normal => exact fun _ _ _ => hunit

theorem unitBelow_unpack_pack {a : UnpackedFloat} {k : Int} (ha : UnitBelow k a)
    (hleast : -1074 ≤ k) (hgreatest : k ≤ 971) :
    UnitBelow k (UnpackedFloat.unpack .binary64 (UnpackedFloat.pack .binary64 a)) := by
  have hfield : ((unpackExponent (UnpackedFloat.pack .binary64 a)).toNat : Int)
      ≤ max 0 (k + 1075) := by
    fun_cases UnpackedFloat.pack with
    | case1 => exact ha.elim
    | case2 s => exact ha.elim
    | case3 s => simp [packedZero]
    | case4 s m e hm biased hlarge =>
      have hbiased : biased = (e + 1023 + 52).toNat := rfl
      have hoverflow : 2 ^ 11 ≤ biased + 1 := hlarge
      have he : e ≤ k := ha
      omega
    | case5 s m e hm high biased hsmall hnormal =>
      have hbiased : biased = (e + 1023 + 52).toNat := rfl
      have he : e ≤ k := ha
      have hmod : biased % 2 ^ 11 ≤ biased := Nat.mod_le _ _
      simp only [unpackExponent_packComponents, BitVec.toNat_ofNat]
      omega
    | case6 s m e hm high biased hsmall hnormal => simp
  exact unitBelow_unpack (by omega) hleast (by omega)

theorem log2_le_of_lt {m k : Nat} (hm : m < 2 ^ (k + 1)) : m.log2 ≤ k := by
  by_cases hzero : m = 0
  · subst hzero
    exact Nat.zero_le _
  · exact Nat.le_of_lt_succ ((Nat.log2_lt hzero).mpr hm)

theorem targetExponent_eq (m : Nat) (e : Int) :
    Format.binary64.targetExponent (totalExponent m e) = max ((m.log2 : Int) + e - 52) (-1074) := by
  simp only [Format.targetExponent, totalExponent, mantissaBits_binary64, Format.minExponent]
  norm_num
  omega

theorem mantissa_shiftRight (em : ExtendedMantissa) (n : Nat) :
    (em >>> n).mantissa = em.mantissa / 2 ^ n := by
  induction n with
  | zero => exact (Nat.div_one _).symm
  | succ n ih =>
    change (em >>> n).mantissa / 2 = _
    rw [ih, Nat.div_div_eq_div_mul, Nat.pow_succ]

theorem mantissa_ofMantissaAndAccuracy (m : Nat) (a : Accuracy) :
    (ExtendedMantissa.ofMantissaAndAccuracy m a).mantissa = m := by
  cases a with
  | exact => rfl
  | inexact order => cases order <;> rfl

theorem roundedMantissa_le (em : ExtendedMantissa) : em.roundedMantissa ≤ em.mantissa + 1 := by
  obtain ⟨m, roundBit, stickyBit⟩ := em
  cases roundBit <;> cases stickyBit <;>
    simp only [ExtendedMantissa.roundedMantissa, ExtendedMantissa.accuracy,
      Accuracy.roundToNearestEven] <;> omega

/-- What is left of a mantissa has 53 bits, and one more where it is rounded up to a power of
two. -/
theorem log2_shiftToTargetExponent_le (m : Nat) (e : Int) (a : Accuracy) :
    (shiftToTargetExponent .binary64 m e a).1.roundedMantissa.log2 ≤ 53 := by
  have hrounded := roundedMantissa_le (shiftToTargetExponent .binary64 m e a).1
  generalize (shiftToTargetExponent .binary64 m e a).1.roundedMantissa = r at hrounded ⊢
  simp only [shiftToTargetExponent, targetExponent_eq, shiftToExponent, mantissa_shiftRight,
    mantissa_ofMantissaAndAccuracy] at hrounded
  generalize hshift : (max ((m.log2 : Int) + e - 52) (-1074) - e).toNat = shift at hrounded
  have hbits : m < 2 ^ 53 * 2 ^ shift := by
    rw [← Nat.pow_add]
    exact Nat.lt_log2_self.trans_le (Nat.pow_le_pow_right (by decide) (by omega))
  have hquotient : m / 2 ^ shift < 2 ^ 53 := Nat.div_lt_of_lt_mul (by rwa [Nat.mul_comm])
  exact log2_le_of_lt (by omega)

theorem snd_shiftToTargetExponent (m : Nat) (e : Int) (a : Accuracy) :
    (shiftToTargetExponent .binary64 m e a).2 = max e (max ((m.log2 : Int) + e - 52) (-1074)) := by
  rw [shiftToTargetExponent, targetExponent_eq, shiftToExponent]
  omega

theorem unitBelow_roundWithAccuracy (s : Sign) (m : Nat) (e : Int) (a : Accuracy) :
    UnitBelow (max e (max ((m.log2 : Int) + e - 52) (-1074)) + 1)
      (roundWithAccuracy .binary64 s m e a) := by
  have hlog := log2_shiftToTargetExponent_le m e a
  have hunit := snd_shiftToTargetExponent m e a
  rw [roundWithAccuracy]
  generalize shiftToTargetExponent .binary64 m e a = shifted at hlog hunit ⊢
  obtain ⟨em, e'⟩ := shifted
  have hfinal := snd_shiftToTargetExponent em.roundedMantissa e' .exact
  dsimp only at hlog hunit hfinal ⊢
  by_cases hvanished :
      (shiftToTargetExponent .binary64 em.roundedMantissa e' .exact).1.mantissa = 0
  · rw [dif_pos hvanished]
    trivial
  · rw [dif_neg hvanished]
    change (shiftToTargetExponent .binary64 em.roundedMantissa e' .exact).2 ≤ _
    omega

/-- A number that is spread over lower bits first is rounded the same way. -/
theorem unitBelow_round (s : Sign) (m : Nat) (e : Int) :
    UnitBelow (max ((m.log2 : Int) + e - 52) (-1074) + 1)
      (UnpackedFloat.round .binary64 s m e) := by
  have hlog (n : Nat) : (m <<< n).log2 ≤ m.log2 + n := by
    apply log2_le_of_lt
    rw [Nat.shiftLeft_eq, Nat.add_right_comm, Nat.pow_add]
    exact Nat.mul_lt_mul_of_pos_right Nat.lt_log2_self (by positivity)
  simp only [UnpackedFloat.round, targetExponent_eq, decreaseExponent]
  refine (unitBelow_roundWithAccuracy s _ _ .exact).mono ?_
  have hspread := hlog (e - max ((m.log2 : Int) + e - 52) (-1074)).toNat
  omega

theorem mantissa_unpack_lt {b : BitVec Format.binary64.numBits} {s : Sign} {m : Nat} {e : Int}
    {hm : 0 < m} (hb : UnpackedFloat.unpack .binary64 b = .finite s m e hm) : m < 2 ^ 53 := by
  revert hb
  refine unpack_cases (motive := (· = _ → m < 2 ^ 53)) b
    ?infinite ?undefined ?zero ?subnormal ?normal
  case infinite => exact fun _ _ hb => nomatch hb
  case undefined => exact fun _ _ hb => nomatch hb
  case zero => exact fun _ _ hb => nomatch hb
  case subnormal =>
    intro _ _ hb
    rw [← (UnpackedFloat.finite.inj hb).2.1]
    exact (unpackMantissa b).isLt.trans (by decide)
  case normal =>
    intro _ _ _ hb
    rw [← (UnpackedFloat.finite.inj hb).2.1]
    exact (1#1 ++ unpackMantissa b).isLt

variable {x y : Float} {j k l : Int}

theorem HasUnit.zero_or_finite (hx : HasUnit x k) : (∃ s, x.toModel.unpack = .zero s) ∨
    ∃ s m e hm, x.toModel.unpack = .finite s m e hm ∧ m < 2 ^ 53 ∧ e ≤ k := by
  rw [HasUnit] at hx
  cases hunpack : x.toModel.unpack with
  | zero s => exact .inl ⟨s, rfl⟩
  | finite s m e hm =>
    rw [hunpack] at hx
    exact .inr ⟨s, m, e, hm, rfl, mantissa_unpack_lt hunpack, hx⟩
  | infinity s =>
    rw [hunpack] at hx
    exact hx.elim
  | notANumber =>
    rw [hunpack] at hx
    exact hx.elim

theorem HasUnit.isFinite (hx : HasUnit x k) : x.isFinite := by
  change x.toModel.unpack.isFinite = true
  rcases hx.zero_or_finite with ⟨s, hunpack⟩ | ⟨s, m, e, hm, hunpack, -⟩
  · rw [hunpack]
    rfl
  · rw [hunpack]
    rfl

theorem HasUnit.mul (hx : HasUnit x j) (hy : HasUnit y l) (hunit : j + l + 54 ≤ k)
    (hleast : -1073 ≤ k) (hgreatest : k ≤ 971) : HasUnit (x * y) k := by
  change UnitBelow k (UnpackedFloat.unpack .binary64 (UnpackedFloat.pack .binary64
    (x.toModel.unpack.mul .binary64 y.toModel.unpack)))
  refine unitBelow_unpack_pack ?_ (by omega) hgreatest
  rcases hx.zero_or_finite with ⟨s, hzero⟩ | ⟨s, m, e, hm, hunpack, hbits, he⟩
  · rw [hzero]
    rcases hy.zero_or_finite with ⟨s', hzero'⟩ | ⟨s', m', e', hm', hunpack', -⟩
    · rw [hzero']
      trivial
    · rw [hunpack']
      trivial
  · rw [hunpack]
    rcases hy.zero_or_finite with ⟨s', hzero'⟩ | ⟨s', m', e', hm', hunpack', hbits', he'⟩
    · rw [hzero']
      trivial
    · rw [hunpack']
      have hlog : (m * m').log2 ≤ 105 := by
        apply log2_le_of_lt
        calc m * m' < 2 ^ 53 * 2 ^ 53 := Nat.mul_lt_mul'' hbits hbits'
          _ = 2 ^ (105 + 1) := by norm_num
      exact (unitBelow_roundWithAccuracy _ _ _ .exact).mono (by omega)

theorem HasUnit.neg (hx : HasUnit x k) (hleast : -1074 ≤ k) (hgreatest : k ≤ 971) :
    HasUnit (-x) k := by
  change UnitBelow k (UnpackedFloat.unpack .binary64 (UnpackedFloat.pack .binary64
    x.toModel.unpack.neg))
  refine unitBelow_unpack_pack ?_ hleast hgreatest
  rcases hx.zero_or_finite with ⟨s, hunpack⟩ | ⟨s, m, e, hm, hunpack, -, he⟩
  · rw [hunpack]
    trivial
  · rw [hunpack]
    exact he

theorem hasUnit_toFloat {n : UInt64} (hn : n.toNat < 2 ^ 53) : HasUnit n.toFloat 1 := by
  change UnitBelow 1 (UnpackedFloat.unpack .binary64 (UnpackedFloat.pack .binary64
    (UnpackedFloat.normalize .binary64 (n.toNat : Int) 0 .positive)))
  refine unitBelow_unpack_pack ?_ (by decide) (by decide)
  have hlog : n.toNat.log2 ≤ 52 := log2_le_of_lt hn
  rw [UnpackedFloat.normalize]
  split
  case h_1 hlt => exact absurd (Std.compare_eq_lt.mp hlt) (by omega)
  case h_2 => trivial
  case h_3 => exact (unitBelow_round _ _ _).mono (by rw [Int.toNat_natCast]; omega)

theorem hasUnit_powerOfTwo {e : Int} (hleast : -1022 ≤ e) (hgreatest : e ≤ 1023) :
    HasUnit (powerOfTwo e) (e - 52) := by
  let pattern : BitVec Format.binary64.numBits :=
    (UInt64.ofNat ((e + 1023).toNat * Nat.pow 2 52)).toBitVec
  have hbits : pattern.toNat = (e + 1023).toNat * 2 ^ 52 := by
    have hmod := UInt64.toNat_ofNat' (n := (e + 1023).toNat * Nat.pow 2 52)
    rw [Nat.pow_eq] at hmod
    refine hmod.trans (Nat.mod_eq_of_lt ?_)
    omega
  have hfield : (unpackExponent pattern).toNat = (e + 1023).toNat := by
    rw [exponent_toNat, hbits]
    omega
  change UnitBelow (e - 52) (UnpackedFloat.unpack .binary64 (UnpackedFloat.pack .binary64
    (UnpackedFloat.unpack .binary64 pattern)))
  refine unitBelow_unpack_pack (unitBelow_unpack ?_ ?_ ?_) (by omega) (by omega)
  all_goals omega

theorem hasUnit_ofNat {n : Nat} (hn : n < 2 ^ 53) : HasUnit (.ofNat n) 3 := by
  have hone : HasUnit (powerOfTwo 0) (-52) := hasUnit_powerOfTwo (by decide) (by decide)
  have hofNat : Float.ofNat n = n.toUInt64.toFloat * powerOfTwo 0 := by
    change Float.ofScientific n false 0 = _
    rw [Float.ofScientific, dif_pos ⟨hn, by decide⟩]
    rfl
  have hbits : n.toUInt64.toNat < 2 ^ 53 := (Nat.mod_le _ _).trans_lt hn
  rw [hofNat]
  exact (hasUnit_toFloat hbits).mul hone (by decide) (by decide) (by decide)

/-! ### The nearest number of 24 bits -/

/-- An even number is reached from half a unit below on. -/
theorem le_divRoundEven_iff {n d k : ℕ} (hd : 0 < d) (heven : k % 2 = 0) :
    k ≤ divRoundEven n d ↔ 2 * (k * d) ≤ 2 * n + d := by
  have hn : d * (n / d) + n % d = n := Nat.div_add_mod n d
  have hr : n % d < d := Nat.mod_lt n hd
  rw [divRoundEven]
  generalize n / d = q at hn ⊢
  generalize n % d = r at hn hr ⊢
  have hle (j : ℕ) (h : k ≤ q + j) : k * d ≤ d * q + j * d := by
    calc k * d ≤ (q + j) * d := Nat.mul_le_mul_right d h
      _ = d * q + j * d := by ring
  have hge (j : ℕ) (h : q + j ≤ k) : d * q + j * d ≤ k * d := by
    calc d * q + j * d = (q + j) * d := by ring
      _ ≤ k * d := Nat.mul_le_mul_right d h
  have hupTo (j : ℕ) (hat : 2 * (j * d) ≤ 2 * r + d) (hnext : 2 * r < 2 * (j * d) + d) :
      k ≤ q + j ↔ 2 * (k * d) ≤ 2 * n + d := by
    refine ⟨fun h => ?_, fun h => ?_⟩
    · have hmul := hle j h
      omega
    · by_contra hnot
      have hmul := hge (j + 1) (by omega)
      rw [add_mul] at hmul
      omega
  split_ifs with hbelow habove hlower
  · exact hupTo 0 (by omega) (by omega)
  · exact hupTo 1 (by omega) (by omega)
  -- Halfway, the even one of the two is no less than an even number that is at most the other.
  · rw [← hupTo 1 (by omega) (by omega)]
    omega
  · exact hupTo 1 (by omega) (by omega)

namespace Magnitude

/-- The exponent that a number of 24 bits has, unless it is smaller than all of them. -/
def singleExponent (m : Magnitude) : ℤ := max (Nat.log2 m.mantissa + m.exponent - 23) (-149)

def singleMantissa (m : Magnitude) : ℕ :=
  divRoundEven (m.mantissa * 2 ^ (-(m.singleExponent - m.exponent)).toNat)
    (2 ^ (m.singleExponent - m.exponent).toNat)

theorem toSingle_eq (m : Magnitude) : m.toSingle =
    if 2 ^ 128 ≤ m.singleMantissa * 2 ^ m.singleExponent.toNat then 1.0 / 0.0
    else .ofNat m.singleMantissa * powerOfTwo m.singleExponent := rfl

variable {m : Magnitude} {k : ℕ}

theorem le_singleMantissa_iff (heven : k % 2 = 0) :
    k ≤ m.singleMantissa ↔ (k - 1 / 2 : ℚ) * 2 ^ m.singleExponent ≤ m.value := by
  rw [singleMantissa, le_divRoundEven_iff (by positivity) heven]
  generalize hshift : m.singleExponent - m.exponent = shift
  -- Both sides are counted in the smaller of the two units.
  have hunit := zpow_two_pos (m.singleExponent - shift.toNat)
  have hscale (z : ℤ) (n : ℕ) (hz : z = m.singleExponent - shift.toNat + n) :
      (2 : ℚ) ^ z = 2 ^ n * 2 ^ (m.singleExponent - shift.toNat) := by
    rw [hz, zpow_add₀ (by norm_num), zpow_natCast, mul_comm]
  have hleft : (k - 1 / 2 : ℚ) * 2 ^ m.singleExponent
      = (k - 1 / 2) * 2 ^ shift.toNat * 2 ^ (m.singleExponent - shift.toNat) := by
    rw [hscale m.singleExponent shift.toNat (by omega), mul_assoc]
  have hright : m.value
      = m.mantissa * 2 ^ (-shift).toNat * 2 ^ (m.singleExponent - shift.toNat) := by
    rw [value, hscale m.exponent (-shift).toNat (by omega), mul_assoc]
  have hcast (a b : ℕ) : a ≤ b ↔ (a : ℚ) ≤ b := Nat.cast_le.symm
  rw [hleft, hright, mul_le_mul_iff_left₀ hunit, hcast]
  push_cast
  constructor <;> intro h <;> linarith

theorem value_lt (m : Magnitude) : m.value < 2 ^ 24 * 2 ^ m.singleExponent := by
  have hbits : (m.mantissa : ℚ) < 2 ^ (m.mantissa.log2 + 1) := by exact_mod_cast Nat.lt_log2_self
  have hexponent : (m.mantissa.log2 : ℤ) + m.exponent - 23 ≤ m.singleExponent := le_max_left _ _
  calc m.value < 2 ^ (m.mantissa.log2 + 1) * 2 ^ m.exponent :=
        mul_lt_mul_of_pos_right hbits (zpow_two_pos _)
    _ = 2 ^ ((m.mantissa.log2 + 1 : ℕ) + m.exponent : ℤ) := by
        rw [zpow_add₀ (by norm_num), zpow_natCast]
    _ ≤ 2 ^ ((24 : ℕ) + m.singleExponent : ℤ) :=
        zpow_le_zpow_right₀ (by norm_num) (by push_cast; omega)
    _ = 2 ^ 24 * 2 ^ m.singleExponent := by rw [zpow_add₀ (by norm_num), zpow_natCast]

theorem le_value (hpos : m.mantissa ≠ 0) (hlarge : -149 < m.singleExponent) :
    2 ^ 23 * 2 ^ m.singleExponent ≤ m.value := by
  have hbits : (2 ^ m.mantissa.log2 : ℚ) ≤ m.mantissa := by
    exact_mod_cast Nat.log2_self_le hpos
  have hexponent : m.singleExponent = m.mantissa.log2 + m.exponent - 23 := by
    rw [singleExponent] at hlarge ⊢
    omega
  calc (2 : ℚ) ^ 23 * 2 ^ m.singleExponent
      = 2 ^ ((23 : ℕ) + m.singleExponent : ℤ) := by rw [zpow_add₀ (by norm_num), zpow_natCast]
    _ = 2 ^ ((m.mantissa.log2 : ℕ) + m.exponent : ℤ) := by
        congr 1
        push_cast
        omega
    _ = 2 ^ m.mantissa.log2 * 2 ^ m.exponent := by rw [zpow_add₀ (by norm_num), zpow_natCast]
    _ ≤ m.value := mul_le_mul_of_nonneg_right hbits (zpow_two_pos _).le

/-- Beyond the exponents of single precision a value is too large, unless there is no mantissa. -/
theorem le_value_of_lt (hzero : m.mantissa = 0 → m.exponent ≤ 0) (hlarge : 104 < m.singleExponent) :
    2 ^ 23 * 2 ^ m.singleExponent ≤ m.value ∧ 2 ^ 128 - 2 ^ 103 ≤ m.value := by
  have hpos : m.mantissa ≠ 0 := by
    intro hnone
    have hexponent := hzero hnone
    rw [singleExponent, hnone, Nat.log2_zero] at hlarge
    omega
  have hfloor := le_value hpos (by omega)
  have hpower : (2 : ℚ) ^ (105 : ℤ) ≤ 2 ^ m.singleExponent :=
    zpow_le_zpow_right₀ (by norm_num) (by omega)
  refine ⟨hfloor, ?_⟩
  calc (2 ^ 128 - 2 ^ 103 : ℚ) ≤ 2 ^ 23 * 2 ^ (105 : ℤ) := by norm_num
    _ ≤ 2 ^ 23 * 2 ^ m.singleExponent := mul_le_mul_of_nonneg_left hpower (by norm_num)
    _ ≤ m.value := hfloor

theorem singleMantissa_lt (m : Magnitude) : m.singleMantissa < 2 ^ 24 + 2 := by
  by_contra hnot
  have hreached := (le_singleMantissa_iff (by decide)).mp (not_lt.mp hnot)
  have hunit := zpow_two_pos m.singleExponent
  have hvalue := m.value_lt
  push_cast at hreached
  linarith

/-- Half a unit below `2 ^ 128` is where a result of 24 bits reaches it. -/
theorem overflows_iff (hzero : m.mantissa = 0 → m.exponent ≤ 0) :
    2 ^ 128 ≤ m.singleMantissa * 2 ^ m.singleExponent.toNat ↔ 2 ^ 128 - 2 ^ 103 ≤ m.value := by
  have hvalue := m.value_lt
  have hupper := m.singleMantissa_lt
  rcases lt_trichotomy m.singleExponent 104 with hsmall | hlast | hlarge
  case inl =>
    have hpower : (2 : ℚ) ^ m.singleExponent ≤ 2 ^ (103 : ℤ) :=
      zpow_le_zpow_right₀ (by norm_num) (by omega)
    have hbelow : m.value < 2 ^ 128 - 2 ^ 103 := by
      refine hvalue.trans_le ((mul_le_mul_of_nonneg_left hpower (by norm_num)).trans ?_)
      norm_num
    refine ⟨fun h => ?_, fun h => absurd h (not_le.mpr hbelow)⟩
    have hproduct : m.singleMantissa * 2 ^ m.singleExponent.toNat ≤ (2 ^ 24 + 1) * 2 ^ 103 :=
      Nat.mul_le_mul (by omega) (Nat.pow_le_pow_right (by decide) (by omega))
    exact absurd (h.trans hproduct) (by decide)
  case inr.inl =>
    have heven := le_singleMantissa_iff (m := m) (k := 2 ^ 24) (by decide)
    rw [hlast] at heven ⊢
    calc 2 ^ 128 ≤ m.singleMantissa * 2 ^ (104 : ℤ).toNat ↔ 2 ^ 24 ≤ m.singleMantissa := by
          change 2 ^ 24 * 2 ^ 104 ≤ m.singleMantissa * 2 ^ 104 ↔ _
          exact Nat.mul_le_mul_right_iff (by decide)
      _ ↔ (2 ^ 128 - 2 ^ 103 : ℚ) ≤ m.value := by
          rw [heven]
          norm_num
  case inr.inr =>
    obtain ⟨hfloor, hreached⟩ := le_value_of_lt hzero hlarge
    refine iff_of_true ?_ hreached
    have hunit := zpow_two_pos m.singleExponent
    have hmantissa : 2 ^ 23 ≤ m.singleMantissa :=
      (le_singleMantissa_iff (by decide)).mpr (by push_cast; linarith)
    calc 2 ^ 128 = 2 ^ 23 * 2 ^ 105 := by decide
      _ ≤ m.singleMantissa * 2 ^ m.singleExponent.toNat :=
        Nat.mul_le_mul hmantissa (Nat.pow_le_pow_right (by decide) (by omega))

theorem toSingle_of_le (hzero : m.mantissa = 0 → m.exponent ≤ 0)
    (hlarge : 2 ^ 128 - 2 ^ 103 ≤ m.value) : m.toSingle = 1.0 / 0.0 := by
  rw [toSingle_eq, if_pos ((overflows_iff hzero).mpr hlarge)]

theorem hasUnit_toSingle (hzero : m.mantissa = 0 → m.exponent ≤ 0)
    (hsmall : m.value < 2 ^ 128 - 2 ^ 103) : HasUnit m.toSingle 109 := by
  have hfits := mt (overflows_iff hzero).mp (not_le.mpr hsmall)
  have hupper := m.singleMantissa_lt
  have hleast : -149 ≤ m.singleExponent := le_max_right _ _
  have hgreatest : m.singleExponent ≤ 104 :=
    not_lt.mp fun hlarge => absurd (le_value_of_lt hzero hlarge).2 (not_le.mpr hsmall)
  rw [toSingle_eq, if_neg hfits]
  exact (hasUnit_ofNat (by omega)).mul (hasUnit_powerOfTwo (by omega) (by omega)) (by omega)
    (by decide) (by decide)

end Magnitude

/-- Whether a rounded number is finite does not depend on its sign. -/
theorem isFinite_signed_iff {negative : Prop} [Decidable negative] {m : Magnitude}
    (hzero : m.mantissa = 0 → m.exponent ≤ 0) :
    (if negative then -m.toSingle else m.toSingle).isFinite ↔ m.value < 2 ^ 128 - 2 ^ 103 := by
  rcases lt_or_ge m.value (2 ^ 128 - 2 ^ 103) with hsmall | hlarge
  · have hunit := Magnitude.hasUnit_toSingle hzero hsmall
    refine iff_of_true ?_ hsmall
    split_ifs
    · exact (hunit.neg (by decide) (by decide)).isFinite
    · exact hunit.isFinite
  · refine iff_of_false ?_ (not_lt.mpr hlarge)
    rw [Magnitude.toSingle_of_le hzero hlarge]
    split_ifs
    · decide +kernel
    · decide +kernel

theorem isFinite_toSingle_iff {x : Float} (hx : x.isFinite) :
    (toSingle x).isFinite ↔ (Magnitude.ofFloat x).value < 2 ^ 128 - 2 ^ 103 := by
  have hzero : (Magnitude.ofFloat x).mantissa = 0 → (Magnitude.ofFloat x).exponent ≤ 0 := by
    intro hnone
    rcases (Magnitude.isNormalized_ofFloat hx).leading with hleast | hleading
    · omega
    · omega
  rw [toSingle, if_neg (by simp [hx])]
  exact isFinite_signed_iff hzero

theorem isFinite_singleOfInt_iff (n : ℤ) :
    (singleOfInt n).isFinite ↔ (n.natAbs : ℚ) < 2 ^ 128 - 2 ^ 103 := by
  have hvalue : (Magnitude.mk n.natAbs 0).value = n.natAbs := by
    rw [Magnitude.value, zpow_zero, mul_one]
  rw [singleOfInt, ← hvalue]
  exact isFinite_signed_iff fun _ => le_rfl

end HybridSearch
