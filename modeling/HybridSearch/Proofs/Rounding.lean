import HybridSearch.Decimal.Shortest
import Mathlib.Algebra.Order.Floor.Semifield
import Mathlib.Data.Rat.Floor
import Mathlib.Tactic.FieldSimp

/-!
# Which numbers round to a double

A double stands for the numbers around it that are nearer to it than to its neighbours; a number
halfway between two goes to the one with the even mantissa. No number rounds to two doubles. And
decimals of seventeen digits are so close together that one of them rounds to each double, which is
where the search for the shortest one ends. So the decimal that is found tells doubles apart.
-/

namespace HybridSearch

theorem zpow_mul_pow_toNat_neg {b : ℚ} (hb : b ≠ 0) (z : ℤ) :
    b ^ z * b ^ (-z).toNat = b ^ z.toNat := by
  rw [← zpow_natCast, ← zpow_natCast, ← zpow_add₀ hb]
  congr 1
  omega

theorem zpow_two_pos (z : ℤ) : (0 : ℚ) < 2 ^ z := zpow_pos (by norm_num) z

theorem zpow_ten_pos (z : ℤ) : (0 : ℚ) < 10 ^ z := zpow_pos (by norm_num) z

def Decimal.value (d : Decimal) : ℚ := d.digits * 10 ^ d.exponent

namespace Magnitude

def value (m : Magnitude) : ℚ := m.mantissa * 2 ^ m.exponent

/-- How finite doubles are kept: the mantissa has its leading bit unless the exponent is the least
that there is. -/
structure IsNormalized (m : Magnitude) : Prop where
  mantissa_lt : m.mantissa < 2 ^ 53
  least_le : -1074 ≤ m.exponent
  le_greatest : m.exponent ≤ 971
  leading : m.exponent = -1074 ∨ 2 ^ 52 ≤ m.mantissa

/-- Half the distance to the double below, in units of the mantissa. Below a power of two the
doubles are closer together. -/
def reach (m : Magnitude) : ℚ := if m.mantissa = 2 ^ 52 ∧ -1074 < m.exponent then 1 / 4 else 1 / 2

def low (m : Magnitude) : ℚ := (m.mantissa - m.reach) * 2 ^ m.exponent

def high (m : Magnitude) : ℚ := (m.mantissa + 1 / 2) * 2 ^ m.exponent

/-- Whether a number rounds to a double, of two that are as near to the even one. -/
def Rounds (m : Magnitude) (x : ℚ) : Prop :=
  if m.mantissa % 2 = 0 then m.low ≤ x ∧ x ≤ m.high else m.low < x ∧ x < m.high

variable {m m' : Magnitude} {x : ℚ}

theorem reach_le (m : Magnitude) : m.reach ≤ 1 / 2 := by
  unfold reach
  split_ifs <;> norm_num

theorem le_reach (m : Magnitude) : 1 / 4 ≤ m.reach := by
  unfold reach
  split_ifs <;> norm_num

theorem Rounds.low_le (hx : m.Rounds x) : m.low ≤ x := by
  unfold Rounds at hx
  split_ifs at hx
  · exact hx.1
  · exact hx.1.le

theorem Rounds.le_high (hx : m.Rounds x) : x ≤ m.high := by
  unfold Rounds at hx
  split_ifs at hx
  · exact hx.2
  · exact hx.2.le

theorem rounds_of_near (hx : |x - m.value| < m.reach * 2 ^ m.exponent) : m.Rounds x := by
  have hunit := zpow_two_pos m.exponent
  have hreach := mul_le_mul_of_nonneg_right m.reach_le hunit.le
  obtain ⟨hbelow, habove⟩ := abs_lt.mp hx
  have hlow : m.low < x := by
    rw [low, sub_mul]
    rw [value] at hbelow
    linarith
  have hhigh : x < m.high := by
    rw [high, add_mul]
    rw [value] at habove
    linarith
  unfold Rounds
  split_ifs
  · exact ⟨hlow.le, hhigh.le⟩
  · exact ⟨hlow, hhigh⟩

/-! ### No number rounds to two doubles -/

def Below (m m' : Magnitude) : Prop :=
  m.exponent < m'.exponent ∨ m.exponent = m'.exponent ∧ m.mantissa < m'.mantissa

theorem below_or_below_of_ne (hne : m ≠ m') : m.Below m' ∨ m'.Below m := by
  obtain ⟨mantissa, exponent⟩ := m
  obtain ⟨mantissa', exponent'⟩ := m'
  simp only [ne_eq, mk.injEq, Below] at hne ⊢
  omega

theorem two_mul_zpow_le {e e' : ℤ} (hlt : e < e') : (2 : ℚ) * 2 ^ e ≤ 2 ^ e' := by
  rw [← zpow_one_add₀ (by norm_num)]
  exact zpow_le_zpow_right₀ (by norm_num) (by omega)

/-- Below a double with the leading bit there is at most a quarter of a unit less than it. -/
theorem IsNormalized.le_low (hm : m.IsNormalized) (hgreater : -1074 < m.exponent) :
    (2 ^ 52 - 1 / 4 : ℚ) * 2 ^ m.exponent ≤ m.low := by
  have hleading : 2 ^ 52 ≤ m.mantissa := hm.leading.resolve_left hgreater.ne'
  refine mul_le_mul_of_nonneg_right ?_ (zpow_two_pos _).le
  by_cases hpower : m.mantissa = 2 ^ 52
  · rw [reach, if_pos ⟨hpower, hgreater⟩, hpower]
    norm_num
  · have hnext : (2 ^ 52 + 1 : ℚ) ≤ m.mantissa := by
      exact_mod_cast Nat.lt_of_le_of_ne hleading (Ne.symm hpower)
    have hreach := m.reach_le
    linarith

theorem high_le_low (hm : m.IsNormalized) (hm' : m'.IsNormalized) (hbelow : m.Below m') :
    m.high ≤ m'.low := by
  have hunit := zpow_two_pos m.exponent
  rcases hbelow with hexponent | ⟨hexponent, hmantissa⟩
  · have hunits := two_mul_zpow_le hexponent
    have hlow := hm'.le_low (hm.least_le.trans_lt hexponent)
    have hlast : (m.mantissa + 1 : ℚ) ≤ 2 ^ 53 := by exact_mod_cast hm.mantissa_lt
    rw [high]
    nlinarith
  · have hnext : (m.mantissa + 1 : ℚ) ≤ m'.mantissa := by exact_mod_cast hmantissa
    have hreach := m'.reach_le
    rw [high, low, ← hexponent]
    exact mul_le_mul_of_nonneg_right (by linarith) hunit.le

/-- Between two even mantissas there is another number. -/
theorem high_lt_low (hm : m.IsNormalized) (hm' : m'.IsNormalized) (hbelow : m.Below m')
    (heven : m.mantissa % 2 = 0) (heven' : m'.mantissa % 2 = 0) : m.high < m'.low := by
  have hunit := zpow_two_pos m.exponent
  rcases hbelow with hexponent | ⟨hexponent, hmantissa⟩
  · have hunits := two_mul_zpow_le hexponent
    have hlow := hm'.le_low (hm.least_le.trans_lt hexponent)
    have hlt := hm.mantissa_lt
    have hlast : (m.mantissa + 2 : ℚ) ≤ 2 ^ 53 := by
      exact_mod_cast (by omega : m.mantissa + 2 ≤ 2 ^ 53)
    rw [high]
    nlinarith
  · have hnext : (m.mantissa + 2 : ℚ) ≤ m'.mantissa := by
      exact_mod_cast (by omega : m.mantissa + 2 ≤ m'.mantissa)
    have hreach := m'.reach_le
    rw [high, low, ← hexponent]
    exact mul_lt_mul_of_pos_right (by linarith) hunit

theorem Rounds.not_of_below (hm : m.IsNormalized) (hm' : m'.IsNormalized) (hx : m.Rounds x)
    (hbelow : m.Below m') : ¬ m'.Rounds x := by
  intro hx'
  have hle := high_le_low hm hm' hbelow
  by_cases heven : m.mantissa % 2 = 0 ∧ m'.mantissa % 2 = 0
  · have hlt := high_lt_low hm hm' hbelow heven.1 heven.2
    linarith [hx.le_high, hx'.low_le]
  -- An odd mantissa leaves the number halfway to the other.
  · rcases not_and_or.mp heven with hodd | hodd
    · rw [Rounds, if_neg hodd] at hx
      linarith [hx.2, hx'.low_le]
    · rw [Rounds, if_neg hodd] at hx'
      linarith [hx'.1, hx.le_high]

theorem Rounds.unique (hm : m.IsNormalized) (hm' : m'.IsNormalized) (hx : m.Rounds x)
    (hx' : m'.Rounds x) : m = m' := by
  by_contra hne
  rcases below_or_below_of_ne hne with hbelow | hbelow
  · exact hx.not_of_below hm hm' hbelow hx'
  · exact hx'.not_of_below hm' hm hbelow hx

end Magnitude

/-! ### Decimals that round to a double -/

namespace Magnitude

variable (m : Magnitude) (k : ℤ)

theorem overPowerOfTen_snd_pos : 0 < (m.overPowerOfTen k).2 :=
  Nat.mul_pos (Nat.pow_pos (by decide)) (Nat.pow_pos (by decide))

theorem overPowerOfTen_fst :
    ((m.overPowerOfTen k).1 : ℚ) = m.value / 10 ^ k * (m.overPowerOfTen k).2 := by
  have htwo := zpow_mul_pow_toNat_neg (b := 2) (by norm_num) m.exponent
  have hten := zpow_mul_pow_toNat_neg (b := 10) (by norm_num) k
  have hpower := (zpow_ten_pos k).ne'
  simp only [overPowerOfTen, Nat.pow_eq, Nat.cast_mul, Nat.cast_pow, Nat.cast_ofNat]
  rw [← htwo, ← hten, value]
  field_simp

theorem overPowerOfTen_le_iff :
    (m.overPowerOfTen k).2 ≤ (m.overPowerOfTen k).1 ↔ (10 : ℚ) ^ k ≤ m.value := by
  have hpos : (0 : ℚ) < (m.overPowerOfTen k).2 := by exact_mod_cast m.overPowerOfTen_snd_pos k
  rw [← Nat.cast_le (α := ℚ), overPowerOfTen_fst, le_mul_iff_one_le_left hpos,
    one_le_div (zpow_ten_pos k)]

end Magnitude

/-- Powers with any exponents compare as those products of their natural powers do that are free of
quotients. -/
theorem zpow_le_zpow_of_pow {b c : ℕ} (hb : 0 < b) (hc : 0 < c) {i j : ℤ}
    (hle : b ^ i.toNat * c ^ (-j).toNat ≤ c ^ j.toNat * b ^ (-i).toNat) : (b : ℚ) ^ i ≤ c ^ j := by
  have hb' : (0 : ℚ) < b := by exact_mod_cast hb
  have hc' : (0 : ℚ) < c := by exact_mod_cast hc
  have hpos : (0 : ℚ) < b ^ (-i).toNat * c ^ (-j).toNat := by positivity
  have hcast : (b : ℚ) ^ i.toNat * c ^ (-j).toNat ≤ c ^ j.toNat * b ^ (-i).toNat := by
    exact_mod_cast hle
  rw [← zpow_mul_pow_toNat_neg hb'.ne' i, ← zpow_mul_pow_toNat_neg hc'.ne' j] at hcast
  refine le_of_mul_le_mul_right ?_ hpos
  calc (b : ℚ) ^ i * (b ^ (-i).toNat * c ^ (-j).toNat)
      = b ^ i * b ^ (-i).toNat * c ^ (-j).toNat := by ring
    _ ≤ c ^ j * c ^ (-j).toNat * b ^ (-i).toNat := hcast
    _ = c ^ j * (b ^ (-i).toNat * c ^ (-j).toNat) := by ring

namespace Magnitude

def guess (e : ℤ) : ℤ := Int.fdiv (e * 30103) 100000

/-- Whether an exponent of ten is right for numbers from `2 ^ e` to twice as much, or one too small.
This is said without quotients. -/
def GuessFits (e g : ℤ) : Prop :=
  10 ^ g.toNat * 2 ^ (-e).toNat ≤ 2 ^ e.toNat * 10 ^ (-g).toNat ∧
    2 ^ (e + 1).toNat * 10 ^ (-(g + 2)).toNat ≤ 10 ^ (g + 2).toNat * 2 ^ (-(e + 1)).toNat

instance (e g : ℤ) : Decidable (GuessFits e g) := inferInstanceAs (Decidable (_ ∧ _))

theorem guessFits_table : ∀ n : ℕ, n < 2098 → GuessFits (n - 1074) (guess (n - 1074)) := by
  decide +kernel

theorem guess_bounds {e : ℤ} (hleast : -1074 ≤ e) (hgreatest : e ≤ 1023) :
    (10 : ℚ) ^ guess e ≤ 2 ^ e ∧ (2 : ℚ) ^ (e + 1) ≤ 10 ^ (guess e + 2) := by
  have hfits := guessFits_table (e + 1074).toNat (by omega)
  rw [show ((e + 1074).toNat : ℤ) - 1074 = e by omega] at hfits
  exact ⟨zpow_le_zpow_of_pow (by decide) (by decide) hfits.1,
    zpow_le_zpow_of_pow (by decide) (by decide) hfits.2⟩

variable {m : Magnitude}

theorem leadingExponent_eq (m : Magnitude) : m.leadingExponent =
    if (10 : ℚ) ^ (guess (m.mantissa.log2 + m.exponent) + 1) ≤ m.value
    then guess (m.mantissa.log2 + m.exponent) + 1
    else guess (m.mantissa.log2 + m.exponent) := by
  simp only [← overPowerOfTen_le_iff]
  rfl

theorem value_bounds (hpos : 0 < m.mantissa) :
    (2 : ℚ) ^ (m.mantissa.log2 + m.exponent) ≤ m.value ∧
      m.value < 2 ^ (m.mantissa.log2 + m.exponent + 1) := by
  have hunit := zpow_two_pos m.exponent
  have hlow : (2 ^ m.mantissa.log2 : ℚ) ≤ m.mantissa := by
    exact_mod_cast Nat.log2_self_le hpos.ne'
  have hhigh : (m.mantissa : ℚ) < 2 ^ (m.mantissa.log2 + 1) := by
    exact_mod_cast Nat.lt_log2_self
  constructor
  · rw [zpow_add₀ (by norm_num), zpow_natCast, value]
    exact mul_le_mul_of_nonneg_right hlow hunit.le
  · rw [add_right_comm, zpow_add₀ (by norm_num), value]
    exact mul_lt_mul_of_pos_right (by exact_mod_cast hhigh) hunit

theorem leadingExponent_bounds (hm : m.IsNormalized) (hpos : 0 < m.mantissa) :
    (10 : ℚ) ^ m.leadingExponent ≤ m.value ∧ m.value < 10 ^ (m.leadingExponent + 1) := by
  obtain ⟨hlow, hhigh⟩ := value_bounds hpos
  have hlog : m.mantissa.log2 < 53 := (Nat.log2_lt hpos.ne').mpr hm.mantissa_lt
  have hleast := hm.least_le
  have hgreatest := hm.le_greatest
  obtain ⟨hbelow, habove⟩ := guess_bounds (e := m.mantissa.log2 + m.exponent) (by omega) (by omega)
  rw [leadingExponent_eq]
  split_ifs with hnext
  · rw [add_assoc]
    exact ⟨hnext, hhigh.trans_le habove⟩
  · exact ⟨hbelow.trans hlow, not_le.mp hnext⟩

/-- Seventeen digits are finer than the doubles. -/
theorem half_grid_lt_reach (hm : m.IsNormalized) (hpos : 0 < m.mantissa) :
    (10 : ℚ) ^ (m.leadingExponent - 16) / 2 < m.reach * 2 ^ m.exponent := by
  have hunit := zpow_two_pos m.exponent
  have hlead := (leadingExponent_bounds hm hpos).1
  rw [← sub_add_cancel m.leadingExponent 16, zpow_add₀ (by norm_num), value] at hlead
  have hlt : (m.mantissa * 2 ^ m.exponent : ℚ) < 2 ^ 53 * 2 ^ m.exponent :=
    mul_lt_mul_of_pos_right (by exact_mod_cast hm.mantissa_lt) hunit
  unfold reach
  split_ifs with hpower
  · rw [hpower.1] at hlead
    norm_num at hlead ⊢
    linarith
  · norm_num at hlead hlt ⊢
    linarith

end Magnitude

namespace Decimal

open Magnitude

variable {m : Magnitude} {d : ℕ} {k : ℤ}

theorem quarters_low (hpos : 0 < m.mantissa) :
    ((4 * m.mantissa - (if m.mantissa = Nat.pow 2 52 ∧ -1074 < m.exponent then 1 else 2) : ℕ) : ℚ)
      / 4 * 2 ^ m.exponent = m.low := by
  rw [low, reach, Nat.pow_eq, Nat.cast_sub (by split_ifs <;> omega)]
  congr 1
  split_ifs <;> push_cast <;> ring

theorem quarters_high (m : Magnitude) :
    ((4 * m.mantissa + 2 : ℕ) : ℚ) / 4 * 2 ^ m.exponent = m.high := by
  rw [high]
  push_cast
  ring

theorem readsBack_iff (hpos : 0 < m.mantissa) :
    readsBack m d k ↔ m.Rounds (d * 10 ^ k) := by
  have htwo := zpow_mul_pow_toNat_neg (b := 2) (by norm_num) m.exponent
  have hten := zpow_mul_pow_toNat_neg (b := 10) (by norm_num) k
  -- Both sides of each comparison are multiplied by the same number, to be free of quotients.
  let scale : ℚ := 4 * (2 ^ (-m.exponent).toNat * 10 ^ (-k).toNat)
  have hscale : 0 < scale := by positivity
  have hvalue : ((4 * d * Nat.pow 10 k.toNat * Nat.pow 2 (-m.exponent).toNat : ℕ) : ℚ)
      = d * 10 ^ k * scale := by
    simp only [Nat.pow_eq, Nat.cast_mul, Nat.cast_pow, Nat.cast_ofNat, ← hten, scale]
    ring
  have hend (quarters : ℕ) :
      ((quarters * (Nat.pow 2 m.exponent.toNat * Nat.pow 10 (-k).toNat) : ℕ) : ℚ)
        = quarters / 4 * 2 ^ m.exponent * scale := by
    simp only [Nat.pow_eq, Nat.cast_mul, Nat.cast_pow, Nat.cast_ofNat, ← htwo, scale]
    ring
  have hle (a b : ℕ) : a ≤ b ↔ (a : ℚ) ≤ b := Nat.cast_le.symm
  have hlt (a b : ℕ) : a < b ↔ (a : ℚ) < b := Nat.cast_lt.symm
  simp only [readsBack, Rounds]
  by_cases heven : m.mantissa % 2 = 0
  · rw [if_pos heven, if_pos heven, Bool.and_eq_true, decide_eq_true_iff, decide_eq_true_iff, hle,
      hle, hvalue, hend, hend, quarters_low hpos, quarters_high, mul_le_mul_iff_left₀ hscale,
      mul_le_mul_iff_left₀ hscale]
  · rw [if_neg heven, if_neg heven, Bool.and_eq_true, decide_eq_true_iff, decide_eq_true_iff, hlt,
      hlt, hvalue, hend, hend, quarters_low hpos, quarters_high, mul_lt_mul_iff_left₀ hscale,
      mul_lt_mul_iff_left₀ hscale]

theorem divRoundEven_cases (n d : ℕ) : divRoundEven n d = n / d ∨ divRoundEven n d = n / d + 1 := by
  simp only [divRoundEven]
  split_ifs <;> simp

theorem readsBack_of_nearestOnGrid (hgrid : nearestOnGrid m k = some d) : readsBack m d k := by
  unfold nearestOnGrid at hgrid
  simp only at hgrid
  split at hgrid
  · obtain rfl := Option.some.inj hgrid
    rcases divRoundEven_cases (m.overPowerOfTen k).1 (m.overPowerOfTen k).2 with h | h
    · rwa [h]
    · rwa [h]
  · obtain rfl := Option.some.inj hgrid
    assumption
  · obtain rfl := Option.some.inj hgrid
    assumption
  · cases hgrid

theorem rounds_or_rounds (hnear : (10 : ℚ) ^ k / 2 < m.reach * 2 ^ m.exponent)
    (hbelow : d ≤ m.value / 10 ^ k) (habove : m.value / 10 ^ k < d + 1) :
    m.Rounds (d * 10 ^ k) ∨ m.Rounds ((d + 1 : ℕ) * 10 ^ k) := by
  have hgrid := zpow_ten_pos k
  rw [le_div_iff₀ hgrid] at hbelow
  rw [div_lt_iff₀ hgrid, add_mul, one_mul] at habove
  rcases le_total (m.value - d * 10 ^ k) (10 ^ k / 2) with hlower | hupper
  · left
    apply rounds_of_near
    rw [abs_sub_comm, abs_of_nonneg (sub_nonneg.mpr hbelow)]
    exact hlower.trans_lt hnear
  · right
    apply rounds_of_near
    push_cast
    rw [add_mul, one_mul, abs_of_pos (sub_pos.mpr habove)]
    linarith

theorem exists_nearestOnGrid (hm : m.IsNormalized) (hpos : 0 < m.mantissa) :
    ∃ d, nearestOnGrid m (m.leadingExponent - 16) = some d := by
  have hnear := half_grid_lt_reach hm hpos
  generalize m.leadingExponent - 16 = k at hnear ⊢
  have hden : ((m.overPowerOfTen k).2 : ℚ) ≠ 0 := by
    exact_mod_cast (m.overPowerOfTen_snd_pos k).ne'
  have hquotient : ((m.overPowerOfTen k).1 : ℚ) / (m.overPowerOfTen k).2 = m.value / 10 ^ k := by
    rw [overPowerOfTen_fst, mul_div_cancel_right₀ _ hden]
  have hfloor : ⌊m.value / 10 ^ k⌋₊ = (m.overPowerOfTen k).1 / (m.overPowerOfTen k).2 := by
    rw [← hquotient, Nat.floor_div_eq_div]
  have hnonneg : 0 ≤ m.value / 10 ^ k := by
    rw [← hquotient]
    positivity
  have heither := rounds_or_rounds hnear (Nat.floor_le hnonneg) (Nat.lt_floor_add_one _)
  rw [hfloor, ← readsBack_iff hpos, ← readsBack_iff hpos] at heither
  simp only [nearestOnGrid]
  rcases heither with hread | hread
  · rw [hread]
    split <;> simp_all
  · rw [hread]
    split <;> simp_all

@[simp]
theorem value_ofGrid (d : ℕ) (k : ℤ) : (ofGrid d k).value = d * 10 ^ k := by
  unfold ofGrid
  split_ifs with hzero
  · have hten : (d : ℚ) = (d / 10 : ℕ) * 10 := by
      exact_mod_cast (Nat.div_mul_cancel (Nat.dvd_of_mod_eq_zero hzero)).symm
    rw [value, zpow_add_one₀ (by norm_num), hten]
    ring
  · rfl

theorem rounds_shortest (hm : m.IsNormalized) : m.Rounds (shortest m).value := by
  unfold shortest
  by_cases hzero : m.mantissa = 0
  · have hunit := zpow_two_pos m.exponent
    have hreach := m.le_reach
    rw [if_pos hzero]
    apply rounds_of_near
    rw [Magnitude.value, value, hzero]
    simp only [Nat.cast_zero, zero_mul, sub_zero, abs_zero]
    positivity
  · have hpos := Nat.pos_of_ne_zero hzero
    obtain ⟨d, hd⟩ := exists_nearestOnGrid hm hpos
    let onGrid (i : ℕ) := (nearestOnGrid m (m.leadingExponent - i)).map
      (ofGrid · (m.leadingExponent - i))
    have hsome : ((List.range 17).findSome? onGrid).isSome := by
      rw [List.findSome?_isSome_iff]
      exact ⟨16, by decide, by simp [onGrid, hd]⟩
    obtain ⟨found, hfound⟩ := Option.isSome_iff_exists.mp hsome
    obtain ⟨i, -, hi⟩ := List.exists_of_findSome?_eq_some hfound
    obtain ⟨digits, hdigits, rfl⟩ := Option.map_eq_some_iff.mp hi
    rw [if_neg hzero]
    change m.Rounds (((List.range 17).findSome? onGrid).getD _).value
    rw [hfound, Option.getD_some, value_ofGrid]
    exact (readsBack_iff hpos).mp (readsBack_of_nearestOnGrid hdigits)

theorem shortest_injective {m m' : Magnitude} (hm : m.IsNormalized) (hm' : m'.IsNormalized)
    (hvalue : (shortest m).value = (shortest m').value) : m = m' :=
  (rounds_shortest hm).unique hm hm' (hvalue ▸ rounds_shortest hm')

end Decimal

end HybridSearch
