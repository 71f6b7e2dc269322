import HybridSearch.Score
import Mathlib.Algebra.Group.Nat.Defs
import Mathlib.Tactic.ByContra
import Mathlib.Tactic.SplitIfs

/-!
# Scores and the doubles they stand for

A score is a bit pattern and a double a value, and only undefined patterns share a value. So a
finite score survives the way through a double and back, which is the way it takes through a cursor.
-/

namespace HybridSearch.DoubleBits

open Float.Model Float.Model.UnpackedFloat

theorem toBitVec_ofBitVec (v : BitVec 1) : (Sign.ofBitVec v).toBitVec = v := by
  revert v
  decide

theorem mantissaBits_binary64 : Format.binary64.mantissaBits = 53 := rfl

theorem packComponents_fields (b : BitVec Format.binary64.numBits) :
    packComponents .binary64 (Sign.ofBitVec (unpackSign b)) (unpackExponent b) (unpackMantissa b)
      = b := by
  apply BitVec.eq_of_getLsbD_eq
  intro i hi
  rw [packComponents, toBitVec_ofBitVec]
  unfold unpackSign
  simp only [BitVec.getLsbD_append, unpackMantissa, unpackExponent]
  simp
  grind

theorem exponent_toNat (b : BitVec Format.binary64.numBits) :
    (unpackExponent b).toNat = b.toNat / 2 ^ 52 % 2 ^ 11 := by
  simp [unpackExponent, Nat.shiftRight_eq_div_pow]

theorem mantissa_toNat (b : BitVec Format.binary64.numBits) :
    (unpackMantissa b).toNat = b.toNat % 2 ^ 52 := by
  simp [unpackMantissa]

/-- The kinds of pattern: an exponent of ones is left to what is not finite, an exponent of zeros to
zero and to the numbers without a leading bit. -/
theorem unpack_cases {motive : UnpackedFloat → Prop} (b : BitVec Format.binary64.numBits)
    (infinite : unpackExponent b = -1#_ → unpackMantissa b = 0#_ →
      motive (.infinity (Sign.ofBitVec (unpackSign b))))
    (undefined : unpackExponent b = -1#_ → unpackMantissa b ≠ 0#_ → motive .notANumber)
    (zero : unpackExponent b = 0#_ → unpackMantissa b = 0#_ →
      motive (.zero (Sign.ofBitVec (unpackSign b))))
    (subnormal : unpackExponent b = 0#_ → ∀ hm : 0 < (unpackMantissa b).toNat,
      motive (.finite (Sign.ofBitVec (unpackSign b)) (unpackMantissa b).toNat (-1074) hm))
    (normal : unpackExponent b ≠ -1#_ → unpackExponent b ≠ 0#_ →
      ∀ hm : 0 < (1#1 ++ unpackMantissa b).toNat,
      motive (.finite (Sign.ofBitVec (unpackSign b)) (1#1 ++ unpackMantissa b).toNat
        ((unpackExponent b).toNat - 1075) hm)) :
    motive (UnpackedFloat.unpack .binary64 b) := by
  unfold UnpackedFloat.unpack
  dsimp only
  by_cases hones : unpackExponent b = -1#_
  · rw [if_pos hones]
    by_cases hmantissa : unpackMantissa b = 0#_
    · rw [if_pos hmantissa]
      exact infinite hones hmantissa
    · rw [if_neg hmantissa]
      exact undefined hones hmantissa
  · rw [if_neg hones]
    by_cases hleast : unpackExponent b = 0#_
    · rw [if_pos hleast]
      by_cases hmantissa : unpackMantissa b = 0#_
      · rw [dif_pos hmantissa]
        exact zero hleast hmantissa
      · rw [dif_neg hmantissa, hleast]
        exact subnormal hleast _
    · rw [if_neg hleast]
      exact normal hones hleast _

/-- A number with its leading bit set is packed without that bit. -/
theorem pack_normal (s : Sign) (m biased : Nat) (e : Int) (hm : 0 < m) (hbiased : e + 1075 = biased)
    (hbelow : biased + 1 < 2 ^ 11) (hlow : 2 ^ 52 ≤ m) (hhigh : m < 2 ^ 53) :
    UnpackedFloat.pack .binary64 (.finite s m e hm)
      = packComponents .binary64 s (BitVec.ofNat _ biased) (BitVec.ofNat _ m) := by
  have hlog : m.log2 = 52 := (Nat.log2_eq_iff (Nat.ne_of_gt hm)).mpr ⟨hlow, hhigh⟩
  have hexponent : (e + (Format.binary64.exponentBias : Nat)
      + (Format.binary64.mantissaBitsWithoutImplicit : Nat)).toNat = biased := by
    change (e + (1023 : Int) + (52 : Int)).toNat = biased
    omega
  unfold UnpackedFloat.pack
  dsimp only
  rw [hexponent, if_neg (by simpa using Nat.not_le.mpr hbelow),
    if_pos (by simp [hlog, mantissaBits_binary64])]

/-- A number too small for a leading bit is packed as it is. -/
theorem pack_subnormal (s : Sign) (m : Nat) (hm : 0 < m) (hhigh : m < 2 ^ 52) :
    UnpackedFloat.pack .binary64 (.finite s m (-1074) hm)
      = packComponents .binary64 s 0#_ (BitVec.ofNat _ m) := by
  have hlog : m.log2 < 52 := (Nat.log2_lt (Nat.ne_of_gt hm)).mpr hhigh
  unfold UnpackedFloat.pack
  dsimp only
  rw [if_neg (by decide), if_neg (by rw [mantissaBits_binary64]; omega)]

theorem exponent_ne_ones_of_eq_zero {b : BitVec Format.binary64.numBits}
    (hleast : unpackExponent b = 0#_) : unpackExponent b ≠ -1#_ := by
  rw [hleast]
  decide

/-- Unpacking loses nothing of a pattern that is not an odd way to write the undefined number. -/
theorem pack_unpack {b : BitVec Format.binary64.numBits} (hvalid : Format.binary64.Valid b) :
    UnpackedFloat.pack .binary64 (UnpackedFloat.unpack .binary64 b) = b := by
  have hfields := packComponents_fields b
  have hmantissa : (unpackMantissa b).toNat < 2 ^ 52 := (unpackMantissa b).isLt
  have hexponent : (unpackExponent b).toNat < 2 ^ 11 := (unpackExponent b).isLt
  refine unpack_cases (motive := (UnpackedFloat.pack .binary64 · = b)) b
    ?infinite ?undefined ?zero ?subnormal ?normal
  case infinite =>
    intro hones hzero
    rw [hones, hzero] at hfields
    exact hfields
  case undefined => exact fun hones hnonzero => (hvalid.eq_packedNaN hones hnonzero).symm
  case zero =>
    intro hleast hzero
    rw [hleast, hzero] at hfields
    exact hfields
  case subnormal =>
    intro hleast hpos
    rw [pack_subnormal _ _ hpos hmantissa, BitVec.ofNat_toNat, BitVec.setWidth_eq, ← hleast,
      hfields]
  case normal =>
    intro hones hleast hpos
    have hbelow : (unpackExponent b).toNat ≠ 2 ^ 11 - 1 := fun h => hones (BitVec.eq_of_toNat_eq h)
    have htop : (1#1 ++ unpackMantissa b).toNat = 2 ^ 52 + (unpackMantissa b).toNat := by
      rw [BitVec.toNat_append, Nat.shiftLeft_eq, Nat.or_comm]
      change (unpackMantissa b).toNat ||| 1 * 2 ^ 52 = _
      rw [Nat.one_mul, Nat.or_two_pow_eq_add_of_lt hmantissa, Nat.add_comm]
    have hlow : BitVec.ofNat 52 (1#1 ++ unpackMantissa b).toNat = unpackMantissa b := by
      apply BitVec.eq_of_toNat_eq
      rw [BitVec.toNat_ofNat, htop]
      omega
    have hpack := pack_normal (Sign.ofBitVec (unpackSign b)) (1#1 ++ unpackMantissa b).toNat
      (unpackExponent b).toNat ((unpackExponent b).toNat - 1075) hpos (by omega) (by omega)
      (by omega) (by omega)
    rw [hlow, BitVec.ofNat_toNat, BitVec.setWidth_eq, hfields] at hpack
    exact hpack

theorem model_eq_of_toBits {x y : Float.Model} (hbits : x.toBits = y.toBits) : x = y := by
  cases x
  cases y
  subst hbits
  rfl

theorem isFinite_unpack (b : BitVec Format.binary64.numBits) :
    (UnpackedFloat.unpack .binary64 b).isFinite = decide (unpackExponent b ≠ -1#_) := by
  refine unpack_cases (motive := (·.isFinite = _)) b ?infinite ?undefined ?zero ?subnormal ?normal
  case infinite => exact fun hones _ => (decide_eq_false fun h => h hones).symm
  case undefined => exact fun hones _ => (decide_eq_false fun h => h hones).symm
  case zero => exact fun hleast _ => (decide_eq_true (exponent_ne_ones_of_eq_zero hleast)).symm
  case subnormal => exact fun hleast _ => (decide_eq_true (exponent_ne_ones_of_eq_zero hleast)).symm
  case normal => exact fun hones _ _ => (decide_eq_true hones).symm

theorem isNaN_unpack (b : BitVec Format.binary64.numBits) :
    (UnpackedFloat.unpack .binary64 b).isNaN
      = decide (unpackExponent b = -1#_ ∧ unpackMantissa b ≠ 0#_) := by
  refine unpack_cases (motive := (·.isNaN = _)) b ?infinite ?undefined ?zero ?subnormal ?normal
  case infinite => exact fun _ hzero => (decide_eq_false fun h => h.2 hzero).symm
  case undefined => exact fun hones hnonzero => (decide_eq_true ⟨hones, hnonzero⟩).symm
  case zero => exact fun _ hzero => (decide_eq_false fun h => h.2 hzero).symm
  case subnormal =>
    exact fun hleast _ =>
      (decide_eq_false fun h => exponent_ne_ones_of_eq_zero hleast h.1).symm
  case normal => exact fun hones _ _ => (decide_eq_false fun h => hones h.1).symm

/-- An exponent of ones stays one, whatever the mantissa is turned into. -/
theorem exponent_pack_unpack {b : BitVec Format.binary64.numBits}
    (hones : unpackExponent b = -1#_) :
    unpackExponent (UnpackedFloat.pack .binary64 (UnpackedFloat.unpack .binary64 b)) = -1#_ := by
  refine unpack_cases (motive := fun a => unpackExponent (UnpackedFloat.pack .binary64 a) = _) b
    ?infinite ?undefined ?zero ?subnormal ?normal
  case infinite => exact fun _ _ => unpackExponent_packComponents ..
  case undefined => exact fun _ _ => unpackExponent_packComponents ..
  case zero => exact fun hleast => absurd hones (exponent_ne_ones_of_eq_zero hleast)
  case subnormal => exact fun hleast => absurd hones (exponent_ne_ones_of_eq_zero hleast)
  case normal => exact fun hother => absurd hones hother

end HybridSearch.DoubleBits

namespace HybridSearch.Score

open Float.Model Float.Model.UnpackedFloat DoubleBits

theorem magnitudeBits_toNat (s : Score) : s.magnitudeBits.toNat = s.bits.toNat % 2 ^ 63 := by
  rw [magnitudeBits, UInt64.toNat_and]
  exact Nat.and_two_pow_sub_one_eq_mod s.bits.toNat 63

def pattern (s : Score) : BitVec Format.binary64.numBits := s.bits.toBitVec

theorem exponent_eq_ones_iff {s : Score} :
    unpackExponent s.pattern = -1#_ ↔ s.bits.toNat / 2 ^ 52 % 2 ^ 11 = 2047 := by
  rw [← BitVec.toNat_inj, exponent_toNat]
  exact Iff.rfl

theorem isFinite_iff {s : Score} : s.isFinite ↔ unpackExponent s.pattern ≠ -1#_ := by
  rw [isFinite, decide_eq_true_iff, UInt64.lt_iff_toNat_lt, magnitudeBits_toNat, Ne,
    exponent_eq_ones_iff]
  change s.bits.toNat % 2 ^ 63 < 2047 * 2 ^ 52 ↔ _
  omega

theorem isNaN_iff {s : Score} :
    s.isNaN ↔ unpackExponent s.pattern = -1#_ ∧ unpackMantissa s.pattern ≠ 0#_ := by
  have hzero : unpackMantissa s.pattern = 0#_ ↔ s.bits.toNat % 2 ^ 52 = 0 := by
    rw [← BitVec.toNat_inj, mantissa_toNat]
    exact Iff.rfl
  rw [isNaN, decide_eq_true_iff, UInt64.lt_iff_toNat_lt, magnitudeBits_toNat, exponent_eq_ones_iff,
    Ne, hzero]
  change 2047 * 2 ^ 52 < s.bits.toNat % 2 ^ 63 ↔ _
  omega

theorem valid_of_isFinite {s : Score} (hfinite : s.isFinite) : Format.binary64.Valid s.pattern :=
  ⟨fun hones _ => absurd hones (isFinite_iff.mp hfinite)⟩

theorem valid_of_not_isNaN {s : Score} (hnumber : ¬ s.isNaN) : Format.binary64.Valid s.pattern :=
  ⟨fun hones hmantissa => absurd (isNaN_iff.mpr ⟨hones, hmantissa⟩) hnumber⟩

theorem ofFloat_toFloat_of_valid {s : Score} (hvalid : Format.binary64.Valid s.pattern) :
    ofFloat s.toFloat = s := by
  have hbits : s.toFloat.toBits = UInt64.ofBitVec
      (UnpackedFloat.pack .binary64 (UnpackedFloat.unpack .binary64 s.pattern)) := rfl
  rw [ofFloat, hbits, pack_unpack hvalid]
  rfl

theorem ofFloat_toFloat {s : Score} (hfinite : s.isFinite) : ofFloat s.toFloat = s :=
  ofFloat_toFloat_of_valid (valid_of_isFinite hfinite)

theorem toFloat_ofFloat (x : Float) : (ofFloat x).toFloat = x := by
  obtain ⟨⟨bits, hvalid⟩⟩ := x
  change Float.ofModel (Float.Model.pack (UnpackedFloat.unpack .binary64 bits.toBitVec)) = _
  exact congrArg Float.ofModel (model_eq_of_toBits (congrArg UInt64.ofBitVec (pack_unpack hvalid)))

@[simp]
theorem isFinite_toFloat (s : Score) : s.toFloat.isFinite = s.isFinite := by
  change (UnpackedFloat.unpack .binary64 (UnpackedFloat.pack .binary64
    (UnpackedFloat.unpack .binary64 s.pattern))).isFinite = _
  by_cases hfinite : s.isFinite
  · rw [pack_unpack (valid_of_isFinite hfinite), isFinite_unpack, hfinite]
    exact decide_eq_true (isFinite_iff.mp hfinite)
  · have hones : unpackExponent s.pattern = -1#_ := by
      by_contra h
      exact hfinite (isFinite_iff.mpr h)
    rw [Bool.eq_false_iff.mpr hfinite, isFinite_unpack, exponent_pack_unpack hones]
    exact decide_eq_false (fun h => h rfl)

theorem isNaN_toFloat {s : Score} (hnumber : ¬ s.isNaN) : s.toFloat.isNaN = false := by
  change (UnpackedFloat.unpack .binary64 (UnpackedFloat.pack .binary64
    (UnpackedFloat.unpack .binary64 s.pattern))).isNaN = false
  rw [pack_unpack (valid_of_not_isNaN hnumber), isNaN_unpack]
  exact decide_eq_false fun hpattern => hnumber (isNaN_iff.mpr hpattern)

theorem negativeZero_toFloat_add (x : Float) : negativeZero.toFloat + x = x := by
  obtain ⟨⟨bits, hvalid⟩⟩ := x
  have hzero (y : UnpackedFloat) :
      UnpackedFloat.add .binary64 (.zero .negative) y = y := by
    cases y with
    | zero sign => cases sign <;> rfl
    | _ => rfl
  change Float.ofModel (Float.Model.pack (UnpackedFloat.add .binary64 (.zero .negative)
    (UnpackedFloat.unpack .binary64 bits.toBitVec))) = _
  rw [hzero]
  exact toFloat_ofFloat (.ofModel ⟨bits, hvalid⟩)

@[simp]
theorem negativeZero_add (s : Score) : negativeZero + s = s := by
  have hzero : ¬ negativeZero.isNaN := by decide
  change lift (· + ·) negativeZero s = s
  rw [lift, if_neg hzero]
  by_cases hnan : s.isNaN
  · rw [if_pos hnan]
  · rw [if_neg hnan]
    dsimp only
    rw [negativeZero_toFloat_add, isNaN_toFloat hnan]
    exact ofFloat_toFloat_of_valid (valid_of_not_isNaN hnan)

/-- A sum starts at the number that changes nothing, so it is that of its terms from left to
right. -/
theorem sum_cons (s : Score) (scores : List Score) :
    sum (s :: scores) = scores.foldl (· + ·) s := by
  rw [sum, List.foldl_cons, negativeZero_add]

/-- Two scores are in one place of the total order only if they have the same bits. -/
theorem rank_injective : Function.Injective rank := by
  intro s t hrank
  have hs : s.bits.toNat < 2 ^ 64 := s.bits.toNat_lt
  have ht : t.bits.toNat < 2 ^ 64 := t.bits.toNat_lt
  have hsign : signBit.toNat = 2 ^ 63 := rfl
  have hbits : s.bits.toNat = t.bits.toNat := by
    simp only [rank, magnitudeBits_toNat, UInt64.lt_iff_toNat_lt, hsign] at hrank
    split_ifs at hrank <;> omega
  cases s
  cases t
  exact congrArg mk (UInt64.toNat_inj.mp hbits)

end HybridSearch.Score

/-! ### Numbers, finite and not -/

namespace HybridSearch

open Float.Model Float.Model.UnpackedFloat DoubleBits

theorem isNaN_of_isFinite {x : Float} (hx : x.isFinite) : x.isNaN = false := by
  change x.toModel.unpack.isFinite = true at hx
  change x.toModel.unpack.isNaN = false
  revert hx
  cases x.toModel.unpack with
  | notANumber => exact nofun
  | _ => exact fun _ => rfl

theorem isInf_of_isFinite {x : Float} (hx : x.isFinite) : x.isInf = false := by
  change x.toModel.unpack.isFinite = true at hx
  change x.toModel.unpack.isInf = false
  revert hx
  cases x.toModel.unpack with
  | infinity sign => exact nofun
  | _ => exact fun _ => rfl

theorem isNaN_or_isInf_of_not_isFinite {x : Float} (hx : ¬ x.isFinite) : x.isNaN ∨ x.isInf := by
  change ¬ x.toModel.unpack.isFinite = true at hx
  change x.toModel.unpack.isNaN = true ∨ x.toModel.unpack.isInf = true
  revert hx
  cases x.toModel.unpack with
  | notANumber => exact fun _ => .inl rfl
  | infinity sign => exact fun _ => .inr rfl
  | _ => exact fun hx => absurd rfl hx

theorem isNaN_unpack_pack {a : UnpackedFloat} (hnumber : a.isNaN = false) :
    (UnpackedFloat.unpack .binary64 (UnpackedFloat.pack .binary64 a)).isNaN = false := by
  have hpacked : unpackExponent (UnpackedFloat.pack .binary64 a) = -1#_ →
      unpackMantissa (UnpackedFloat.pack .binary64 a) = 0#_ := by
    fun_cases UnpackedFloat.pack with
    | case1 => cases hnumber
    | case2 s => simp [packedInfinity]
    | case3 s => simp [packedZero]
    | case4 s m e hm biased hlarge => simp [packedInfinity]
    -- The exponent of ones is kept for what is not finite.
    | case5 s m e hm high biased hsmall hnormal =>
        intro hones
        have hbiased : biased % 2 ^ 11 = 2 ^ 11 - 1 := by
          simpa [BitVec.neg_one_eq_allOnes, ← BitVec.toNat_inj] using hones
        have hbound : ¬ 2 ^ 11 ≤ biased + 1 := hsmall
        omega
    | case6 s m e hm high biased hsmall hnormal => simp
  rw [isNaN_unpack, decide_eq_false_iff_not]
  exact fun hpattern => hpattern.2 (hpacked hpattern.1)

theorem isNaN_roundWithAccuracy (spec : Format) (sign : Sign) (m : Nat) (e : Int) (a : Accuracy) :
    (roundWithAccuracy spec sign m e a).isNaN = false := by
  fun_cases roundWithAccuracy spec sign m e a <;> rfl

/-- Finite numbers have a product, if perhaps an infinite one. -/
theorem isNaN_mul {x y : Float} (hx : x.isFinite) (hy : y.isFinite) : (x * y).isNaN = false := by
  change x.toModel.unpack.isFinite = true at hx
  change y.toModel.unpack.isFinite = true at hy
  apply isNaN_unpack_pack (a := x.toModel.unpack.mul .binary64 y.toModel.unpack)
  revert hx hy
  cases x.toModel.unpack with
  | notANumber => exact nofun
  | infinity sign => exact nofun
  | zero sign =>
      cases y.toModel.unpack with
      | notANumber => exact nofun
      | infinity sign' => exact nofun
      | _ => exact fun _ _ => rfl
  | finite sign m e hm =>
      cases y.toModel.unpack with
      | notANumber => exact nofun
      | infinity sign' => exact nofun
      | zero sign' => exact fun _ _ => rfl
      | finite sign' m' e' hm' => exact fun _ _ => isNaN_roundWithAccuracy _ _ _ _ _

end HybridSearch
