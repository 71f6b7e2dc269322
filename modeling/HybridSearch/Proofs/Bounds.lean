import HybridSearch.Weights.Override

/-!
# Weights in bounds

Weights are in bounds when each of their numbers is. Two weights count as the same when their
numbers compare as equal, which the two zeros do, and then they are in bounds together.
-/

namespace HybridSearch

section

open Float.Model Float.Model.UnpackedFloat

theorem parts_eq_of_compare {m m' : Nat} {e e' : Int}
    (heq : (compare e e').then (compare m m') = .eq) : m = m' ∧ e = e' := by
  rw [Ordering.then_eq_eq, Std.compare_eq_iff_eq, Std.compare_eq_iff_eq] at heq
  exact heq.symm

theorem parts_compare_self (m : Nat) (e : Int) : (compare e e).then (compare m m) = .eq := by
  simp

theorem parts_compare_swap (m m' : Nat) (e e' : Int) :
    (compare e' e).then (compare m' m) = ((compare e e').then (compare m m')).swap := by
  rw [Ordering.swap_then, Int.compare_swap, Nat.compare_swap]

theorem compare_notANumber (a : UnpackedFloat) : a.compare .notANumber = none := by
  cases a with
  | infinity s => cases s <;> rfl
  | finite s m e hm => cases s <;> rfl
  | zero s => rfl
  | notANumber => rfl

theorem eq_or_zero_of_compare {a b : UnpackedFloat} (heq : a.compare b = some .eq) :
    a = b ∨ ∃ s s', a = .zero s ∧ b = .zero s' := by
  cases a with
  | notANumber => cases heq
  | infinity s =>
      left
      cases b with
      | infinity s' => cases s <;> cases s' <;> first | rfl | cases heq
      | _ => cases s <;> cases heq
  | zero s =>
      cases b with
      | zero s' => exact .inr ⟨s, s', rfl, rfl⟩
      | notANumber => cases heq
      | infinity s' => cases s' <;> cases heq
      | finite s' m e hm => cases s' <;> cases heq
  | finite s m e hm =>
      left
      cases b with
      | zero s' => cases s <;> cases heq
      | notANumber => cases s <;> cases heq
      | infinity s' => cases s <;> cases s' <;> cases heq
      | finite s' m' e' hm' =>
          cases s <;> cases s'
          · have hparts : ((compare e e').then (compare m m')).swap = .eq := Option.some.inj heq
            obtain ⟨rfl, rfl⟩ := parts_eq_of_compare (Ordering.swap_eq_eq.mp hparts)
            rfl
          · cases heq
          · cases heq
          · have hparts : (compare e e').then (compare m m') = .eq := Option.some.inj heq
            obtain ⟨rfl, rfl⟩ := parts_eq_of_compare hparts
            rfl

theorem compare_zero_right (s s' : Sign) (c : UnpackedFloat) :
    c.compare (.zero s) = c.compare (.zero s') := by
  cases c with
  | infinity sign => cases sign <;> rfl
  | finite sign m e hm => cases sign <;> rfl
  | notANumber => rfl
  | zero sign => rfl

theorem compare_zero_left (s s' : Sign) (c : UnpackedFloat) :
    (UnpackedFloat.zero s).compare c = (UnpackedFloat.zero s').compare c := by
  cases c with
  | infinity sign => cases sign <;> rfl
  | finite sign m e hm => cases sign <;> rfl
  | notANumber => rfl
  | zero sign => rfl

/-- Numbers that compare as equal compare alike with all others. -/
theorem compare_congr {a b : UnpackedFloat} (heq : a.compare b = some .eq) (c : UnpackedFloat) :
    a.compare c = b.compare c ∧ c.compare a = c.compare b ∧ a.isFinite = b.isFinite := by
  obtain rfl | ⟨s, s', rfl, rfl⟩ := eq_or_zero_of_compare heq
  · exact ⟨rfl, rfl, rfl⟩
  · exact ⟨compare_zero_left s s' c, compare_zero_right s s' c, rfl⟩

/-- Turned around, a comparison comes out the other way. -/
theorem compare_swap (a b : UnpackedFloat) : b.compare a = (a.compare b).map Ordering.swap := by
  cases a with
  | notANumber => cases b <;> rfl
  | infinity s =>
      cases b with
      | infinity s' => cases s <;> cases s' <;> rfl
      | _ => cases s <;> rfl
  | zero s =>
      cases b with
      | zero s' => rfl
      | notANumber => rfl
      | infinity s' => cases s' <;> rfl
      | finite s' m e hm => cases s' <;> rfl
  | finite s m e hm =>
      cases b with
      | zero s' => cases s <;> rfl
      | notANumber => cases s <;> rfl
      | infinity s' => cases s <;> cases s' <;> rfl
      | finite s' m' e' hm' =>
          cases s <;> cases s'
          · exact congrArg (some ·.swap) (parts_compare_swap m m' e e')
          · rfl
          · rfl
          · exact congrArg some (parts_compare_swap m m' e e')

theorem float_le_iff {x y : Float} :
    x ≤ y ↔ (x.toModel.unpack.compare y.toModel.unpack).any (·.isLE) := decide_eq_true_iff

theorem float_lt_iff {x y : Float} :
    x < y ↔ x.toModel.unpack.compare y.toModel.unpack = some .lt := by
  calc x < y ↔ (x.toModel.unpack.compare y.toModel.unpack == some .lt) = true := decide_eq_true_iff
    _ ↔ x.toModel.unpack.compare y.toModel.unpack = some .lt := beq_iff_eq

theorem float_not_le_of_lt {x y : Float} (hlt : x < y) : ¬ y ≤ x := by
  rw [float_lt_iff] at hlt
  rw [float_le_iff, compare_swap, hlt]
  decide

theorem float_not_le_of_isNaN {x y : Float} (hy : y.isNaN) : ¬ x ≤ y := by
  change y.toModel.unpack.isNaN = true at hy
  rw [float_le_iff]
  cases hunpack : y.toModel.unpack with
  | notANumber =>
    rw [compare_notANumber]
    exact Bool.false_ne_true
  | _ =>
    rw [hunpack] at hy
    cases hy

theorem unpack_zero : (0 : Float).toModel.unpack = .zero .positive := rfl

theorem compare_zero_eq_iff {sign : Sign} {a : UnpackedFloat}
    (hleast : ((UnpackedFloat.zero sign).compare a).any (·.isLE)) :
    (a.compare (.zero sign)).any (·.isLE) ↔ a.compare (.zero sign) = some .eq := by
  cases a with
  | notANumber => cases hleast
  | zero s => exact iff_of_true rfl rfl
  | infinity s =>
    cases s with
    | negative => cases hleast
    | positive => exact iff_of_false Bool.false_ne_true (by rintro ⟨⟩)
  | finite s m e hm =>
    cases s with
    | negative => cases hleast
    | positive => exact iff_of_false Bool.false_ne_true (by rintro ⟨⟩)

/-- Of the numbers from zero on, only the zeros are no greater. -/
theorem float_le_zero_iff {x : Float} (hleast : 0 ≤ x) : x ≤ 0 ↔ x == 0 := by
  have hbeq : x == 0 ↔ x.toModel.unpack.compare (0 : Float).toModel.unpack = some .eq := by
    change (x.toModel.unpack.compare (0 : Float).toModel.unpack == some .eq) = true ↔ _
    exact beq_iff_eq
  rw [float_le_iff, unpack_zero] at hleast
  rw [hbeq, float_le_iff, unpack_zero]
  exact compare_zero_eq_iff hleast

theorem zero_lt_iff_not_le {x : Float} (hnumber : x.isNaN = false) : 0 < x ↔ ¬ x ≤ 0 := by
  change x.toModel.unpack.isNaN = false at hnumber
  rw [float_lt_iff, float_le_iff, unpack_zero]
  cases hunpack : x.toModel.unpack with
  | notANumber =>
    rw [hunpack] at hnumber
    cases hnumber
  | zero s => exact iff_of_false (by rintro ⟨⟩) fun h => h rfl
  | infinity s =>
    cases s with
    | negative => exact iff_of_false (by rintro ⟨⟩) fun h => h rfl
    | positive => exact iff_of_true rfl Bool.false_ne_true
  | finite s m e hm =>
    cases s with
    | negative => exact iff_of_false (by rintro ⟨⟩) fun h => h rfl
    | positive => exact iff_of_true rfl Bool.false_ne_true

end

theorem WeightField.admits_congr {f : WeightField} {x y : Float} (heq : x == y) :
    f.admits x = f.admits y := by
  have hcompare : x.toModel.unpack.compare y.toModel.unpack = some .eq := beq_iff_eq.mp heq
  have hfinite : x.isFinite = y.isFinite := (compare_congr hcompare x.toModel.unpack).2.2
  have hleast : f.least ≤ x ↔ f.least ≤ y := by
    rw [float_le_iff, float_le_iff, (compare_congr hcompare _).2.1]
  have hmost : x ≤ f.most ↔ y ≤ f.most := by
    rw [float_le_iff, float_le_iff, (compare_congr hcompare _).1]
  simp only [admits, hfinite, hleast, hmost]

namespace Weights

variable {w w' : Weights}

theorem isValid_iff : w.isValid ↔ ∀ f : WeightField, f.admits (w.value f) := by
  have hall (f : WeightField) : f ∈ WeightField.all := by cases f <;> decide
  simp only [isValid, violations, List.isEmpty_map, List.isEmpty_iff, List.filter_eq_nil_iff,
    Bool.not_eq_true', Bool.not_eq_false]
  exact ⟨fun hadmits f => hadmits f (hall f), fun hadmits f _ => hadmits f⟩

theorem isFinite_value (hw : w.isValid) (f : WeightField) : (w.value f).isFinite := by
  have hadmits := isValid_iff.mp hw f
  simp only [WeightField.admits, Bool.and_eq_true] at hadmits
  exact hadmits.1.1

theorem value_beq (heq : w == w') (f : WeightField) : w.value f == w'.value f := by
  change instBEqWeights.beq w w' = true at heq
  obtain ⟨_, ⟨service, taxonomy, organization⟩, ⟨semanticSearch, keywordSearch, intentDriven⟩,
    ⟨weight, decayScale, decayOffset⟩, ⟨nouns, stemmedNouns⟩, _⟩ := w
  simp only [instBEqWeights.beq, Bool.and_eq_true] at heq
  obtain ⟨-, hsemantic, hstrategies, hgeospatial, hvariations, -⟩ := heq
  change instBEqSemanticWeights.beq _ _ = true at hsemantic
  change instBEqStrategyWeights.beq _ _ = true at hstrategies
  change instBEqGeospatialWeights.beq _ _ = true at hgeospatial
  change instBEqVariationWeights.beq _ _ = true at hvariations
  simp only [instBEqSemanticWeights.beq, instBEqStrategyWeights.beq, instBEqGeospatialWeights.beq,
    instBEqVariationWeights.beq, Bool.and_eq_true] at hsemantic hstrategies hgeospatial hvariations
  cases f <;> simp only [value, hsemantic, hstrategies, hgeospatial, hvariations]

theorem isValid_congr (heq : w == w') : w.isValid = w'.isValid := by
  rw [Bool.eq_iff_iff, isValid_iff, isValid_iff]
  exact forall_congr' fun f => by rw [WeightField.admits_congr (value_beq heq f)]

theorem isValid_default : default.isValid := by decide +kernel

end Weights

namespace WeightOverride

theorem apply_of_isEmpty {o : WeightOverride} (hempty : o.isEmpty) (w : Weights) :
    o.apply w = w := by
  simp only [isEmpty, Bool.and_eq_true, Option.isNone_iff_eq_none] at hempty
  obtain ⟨⟨⟨hsemantic, hstrategies⟩, hgeospatial⟩, hvariations⟩ := hempty
  rw [apply, hsemantic, hstrategies, hgeospatial, hvariations]
  rfl

end WeightOverride

/-- The weights of a request are those laid over the snapshot, which are refused out of bounds if
anything is laid over it at all. -/
theorem Weights.forRequest_eq_ok_iff {w w' : Weights} {flat : FlatWeights}
    {custom : Option WeightOverride} : w.forRequest flat custom = .ok w' ↔
      ((requestOverride flat custom).isEmpty ∨ ((requestOverride flat custom).apply w).isValid) ∧
        w' = (requestOverride flat custom).apply w := by
  unfold forRequest
  by_cases hempty : (requestOverride flat custom).isEmpty
  · simp only [hempty, WeightOverride.apply_of_isEmpty hempty, ↓reduceIte, true_or, true_and,
      Except.ok.injEq]
    exact eq_comm
  · by_cases hvalid : ((requestOverride flat custom).apply w).isValid
    · simp [hempty, hvalid, eq_comm]
    · simp [hempty, hvalid]

end HybridSearch
