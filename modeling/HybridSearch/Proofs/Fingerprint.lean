import HybridSearch.Proofs.Bounds
import HybridSearch.Proofs.Digest
import HybridSearch.Proofs.PlainNumber

/-!
# What a fingerprint identifies

A fingerprint is taken of a text that names every field with its number written out. Numbers are
written without semicolons, so the text can be taken apart, and each number can be told from how it
is written. As long as the hash does not collide, fingerprints therefore tell numbers apart. They
tell apart one pair of numbers too many, since the two zeros are equal but not written alike.
-/

namespace HybridSearch

/-! ### Equal numbers of one sign -/

section

open Float.Model Float.Model.UnpackedFloat DoubleBits

variable {x y : Float}

theorem toBits_eq_pack (x : Float) :
    x.toBits = UInt64.ofBitVec (UnpackedFloat.pack .binary64 x.toModel.unpack) := by
  change x.toModel.toBits = UInt64.ofBitVec (UnpackedFloat.pack .binary64
    (UnpackedFloat.unpack .binary64 x.toModel.toBits.toBitVec))
  rw [pack_unpack x.toModel.valid]

theorem eq_of_unpack (hsame : x.toModel.unpack = y.toModel.unpack) : x = y := by
  apply toBits_injective
  rw [toBits_eq_pack, toBits_eq_pack, hsame]

theorem beq_self_of_isFinite (hx : x.isFinite) : x == x := by
  change x.toModel.unpack.isFinite = true at hx
  change (x.toModel.unpack.compare x.toModel.unpack == some .eq) = true
  cases hunpack : x.toModel.unpack with
  | infinity sign =>
    rw [hunpack] at hx
    cases hx
  | notANumber =>
    rw [hunpack] at hx
    cases hx
  | zero sign => rfl
  | finite sign m e hm =>
    cases sign with
    | negative =>
      have hswap := Ordering.swap_eq_eq.mpr (parts_compare_self m e)
      exact beq_iff_eq.mpr (congrArg some hswap)
    | positive => exact beq_iff_eq.mpr (congrArg some (parts_compare_self m e))

theorem isNegative_of_unpack_zero {sign : Sign} (hzero : x.toModel.unpack = .zero sign) :
    isNegative x = (sign == .negative) := by
  rw [isNegative, toBits_eq_pack, hzero]
  cases sign <;> decide

theorem beq_zero_of_unpack {sign : Sign} (hzero : x.toModel.unpack = .zero sign) : x == 0 := by
  change (x.toModel.unpack.compare (0 : Float).toModel.unpack == some .eq) = true
  rw [hzero]
  rfl

theorem eq_or_zero_of_beq (heq : x == y) : x = y ∨
    ∃ s s', x.toModel.unpack = .zero s ∧ y.toModel.unpack = .zero s' := by
  have hcompare : x.toModel.unpack.compare y.toModel.unpack = some .eq := beq_iff_eq.mp heq
  exact (eq_or_zero_of_compare hcompare).imp_left eq_of_unpack

theorem eq_iff_beq_and_sign (hx : x.isFinite) : x = y ↔ x == y ∧ isNegative x = isNegative y := by
  constructor
  · rintro rfl
    exact ⟨beq_self_of_isFinite hx, rfl⟩
  · rintro ⟨heq, hsign⟩
    rcases eq_or_zero_of_beq heq with hsame | ⟨s, s', hzero, hzero'⟩
    · exact hsame
    · rw [isNegative_of_unpack_zero hzero, isNegative_of_unpack_zero hzero'] at hsign
      apply eq_of_unpack
      rw [hzero, hzero']
      cases s <;> cases s' <;> first | rfl | cases hsign

end

/-! ### The text of the numbers -/

/-- Texts that are joined by a character which none of them holds can be told apart again. -/
theorem intercalate_inj {sep : Char} {texts texts' : List String} (hsome : texts ≠ [])
    (hsome' : texts' ≠ []) (hfree : ∀ t ∈ texts, sep ∉ t.toList)
    (hfree' : ∀ t ∈ texts', sep ∉ t.toList)
    (hsame : (String.singleton sep).intercalate texts = (String.singleton sep).intercalate texts') :
    texts = texts' := by
  have hchars := congrArg (List.splitOn sep ·.toList) hsame
  simp only [String.toList_intercalate, String.toList_singleton] at hchars
  rw [List.splitOn_intercalate _ (List.forall_mem_map.mpr hfree) (by simpa using hsome),
    List.splitOn_intercalate _ (List.forall_mem_map.mpr hfree') (by simpa using hsome')] at hchars
  exact List.map_injective_iff.mpr (fun _ _ => String.toList_inj.mp) hchars

namespace Weights

variable {w w' : Weights}

def entry (w : Weights) (f : WeightField) : String := f.path ++ "=" ++ plainNumber (w.value f)

theorem canonicalText_eq (w : Weights) :
    w.canonicalText = (String.singleton ';').intercalate (WeightField.all.map w.entry) := rfl

theorem toList_canonicalText (w : Weights) : w.canonicalText.toList =
    [';'].intercalate (WeightField.all.map fun f =>
      f.path.toList ++ '=' :: (plainNumber (w.value f)).toList) := by
  have hentry : String.toList ∘ w.entry = fun f =>
      f.path.toList ++ '=' :: (plainNumber (w.value f)).toList :=
    funext fun f => by simp [entry]
  rw [canonicalText_eq, String.toList_intercalate, List.map_map, hentry, String.toList_singleton]

theorem semicolon_not_mem_entry (hw : w.isValid) (f : WeightField) : ';' ∉ (w.entry f).toList := by
  have hpath : ';' ∉ f.path.toList := by cases f <;> decide
  have hnumber : ';' ∉ (plainNumber (w.value f)).toList := by
    intro hmem
    rcases mem_plainNumber (isFinite_value hw f) hmem with h | h | h <;> cases h
  simp [entry, hpath, hnumber]

theorem entry_eq_iff (hw : w.isValid) (f : WeightField) :
    w.entry f = w'.entry f ↔ w.value f = w'.value f := by
  rw [entry, entry, String.append_right_inj, plainNumber_inj (isFinite_value hw f)]

theorem canonicalText_eq_iff (hw : w.isValid) (hw' : w'.isValid) :
    w.canonicalText = w'.canonicalText ↔ ∀ f, w.value f = w'.value f := by
  have hall (f : WeightField) : f ∈ WeightField.all := by cases f <;> decide
  rw [canonicalText_eq, canonicalText_eq]
  constructor
  · intro hsame f
    have hentries := intercalate_inj (by simp [WeightField.all]) (by simp [WeightField.all])
      (List.forall_mem_map.mpr fun f _ => semicolon_not_mem_entry hw f)
      (List.forall_mem_map.mpr fun f _ => semicolon_not_mem_entry hw' f) hsame
    exact (entry_eq_iff hw f).mp (List.map_inj_left.mp hentries f (hall f))
  · intro hsame
    congr 1
    exact List.map_inj_left.mpr fun f _ => (entry_eq_iff hw f).mpr (hsame f)

end Weights

/-! ### The hash of the text -/

/-- The first digits of the identifier that a text has for its name. -/
def Digest.shortName (text : String) : String :=
  .ofList ((Text.hexChars (nameIdentifier objectNamespace text)).take 12)

namespace Weights

theorem fingerprint_eq (w : Weights) : w.fingerprint = Digest.shortName w.canonicalText := rfl

variable {w w' : Weights}

/-- Where the hash does not collide, weights in bounds have one fingerprint if their numbers are
equal and zeros have the same sign. So fingerprints identify numbers, up to the sign of a zero. -/
theorem fingerprint_eq_iff (hw : w.isValid) (hw' : w'.isValid)
    (hhash : Set.InjOn Digest.shortName {w.canonicalText, w'.canonicalText}) :
    (w.fingerprint = w'.fingerprint ↔
      ∀ f, w.value f == w'.value f ∧ isNegative (w.value f) = isNegative (w'.value f)) ∧
    ((∀ f, w.value f == 0 → w'.value f == 0 →
        isNegative (w.value f) = isNegative (w'.value f)) →
      (w.fingerprint = w'.fingerprint ↔ ∀ f, w.value f == w'.value f)) := by
  have hexact : w.fingerprint = w'.fingerprint ↔
      ∀ f, w.value f == w'.value f ∧ isNegative (w.value f) = isNegative (w'.value f) := by
    calc w.fingerprint = w'.fingerprint ↔ w.canonicalText = w'.canonicalText :=
          hhash.eq_iff (Set.mem_insert _ _) (Set.mem_insert_of_mem _ rfl)
      _ ↔ ∀ f, w.value f = w'.value f := canonicalText_eq_iff hw hw'
      _ ↔ _ := forall_congr' fun f => eq_iff_beq_and_sign (isFinite_value hw f)
  refine ⟨hexact, fun hzeros => hexact.trans (forall_congr' fun f => and_iff_left_of_imp ?_)⟩
  intro heq
  rcases eq_or_zero_of_beq heq with hsame | ⟨s, s', hzero, hzero'⟩
  · rw [hsame]
  · exact hzeros f (beq_zero_of_unpack hzero) (beq_zero_of_unpack hzero')

/-- The default weights under another name. -/
def renamed : Weights := { default with version := "2.0", metadata := ⟨some "copy", none, none⟩ }

/-- The default weights with the other zero. -/
def minusOffset : Weights := { default with geospatial := ⟨2, 50, -0.0⟩ }

theorem isValid_minusOffset : minusOffset.isValid := by decide +kernel

theorem fingerprint_default : default.fingerprint = "29953647f261" := by
  rw [fingerprint, Digest.nameIdentifier, Digest.sha1_eq, Digest.toList_toUTF8,
    toList_canonicalText]
  decide +kernel

theorem fingerprint_minusOffset : minusOffset.fingerprint = "7adf3c452ff8" := by
  rw [fingerprint, Digest.nameIdentifier, Digest.sha1_eq, Digest.toList_toUTF8,
    toList_canonicalText]
  decide +kernel

theorem injOn_shortName_minusOffset :
    Set.InjOn Digest.shortName {default.canonicalText, minusOffset.canonicalText} := by
  have hapart : Digest.shortName default.canonicalText ≠
      Digest.shortName minusOffset.canonicalText := by
    rw [← fingerprint_eq, ← fingerprint_eq, fingerprint_default, fingerprint_minusOffset]
    decide
  rw [Set.injOn_pair]
  exact fun hsame => absurd hsame hapart

theorem fingerprint_eq_iff_of_default : default.fingerprint = renamed.fingerprint ∧
    (default.fingerprint = minusOffset.fingerprint ↔ ∀ f, default.value f == minusOffset.value f ∧
      isNegative (default.value f) = isNegative (minusOffset.value f)) := by
  constructor
  · have hvalid : renamed.isValid := isValid_default
    have htext : renamed.canonicalText = default.canonicalText := rfl
    have hhash : Set.InjOn Digest.shortName {default.canonicalText, renamed.canonicalText} := by
      rw [htext, Set.pair_eq_singleton]
      exact Set.injOn_singleton _ _
    refine (fingerprint_eq_iff isValid_default hvalid hhash).1.mpr fun f => ⟨?_, rfl⟩
    exact beq_self_of_isFinite (isFinite_value isValid_default f)
  · exact (fingerprint_eq_iff isValid_default isValid_minusOffset injOn_shortName_minusOffset).1

/-- Weights in bounds with equal numbers have different fingerprints, although the hash does not
collide. -/
theorem exists_fingerprints_apart : ∃ w w' : Weights, w.isValid ∧ w'.isValid ∧
    Set.InjOn Digest.shortName {w.canonicalText, w'.canonicalText} ∧
    (∀ f, w.value f == w'.value f) ∧ w.fingerprint ≠ w'.fingerprint := by
  refine ⟨default, minusOffset, isValid_default, isValid_minusOffset, injOn_shortName_minusOffset,
    ?_, ?_⟩
  · intro f
    cases f <;> decide +kernel
  · rw [fingerprint_default, fingerprint_minusOffset]
    decide

end Weights

end HybridSearch
