import HybridSearch.Proofs.Bounds
import Mathlib.Tactic.SplitIfs

/-!
# Weights in layers

The weights of a request come in three layers: the snapshot, the flat fields over it, and the custom
weights over both. An override is read here as a partial function from fields to numbers, which
forgets the sections that it was written in. What a request is served with then depends on the
topmost layer that names a field, one field at a time, and is checked once all are in place.
-/

namespace HybridSearch

/-- The number that a flat field gives to a weight, for the weights that have a flat field. -/
def FlatWeights.value? (l : FlatWeights) : WeightField → Option Float
  | .semanticSearch => l.semanticWeight
  | .keywordSearch => l.keywordWeight
  | .intentDriven => l.intentWeight
  | .geoWeight => l.geoWeight
  | .decayScale => l.decayScale
  | .decayOffset => l.decayOffset
  | .service | .taxonomy | .organization | .nouns | .stemmedNouns => .none

/-- The number of the topmost layer that has one. -/
def Weights.layered (w : Weights) (flat : FlatWeights) (custom : Option WeightOverride)
    (f : WeightField) : Float :=
  ((custom.bind (·.value? f)).or (flat.value? f)).getD (w.value f)

theorem Weights.eq_of_value {w w' : Weights} (hversion : w.version = w'.version)
    (hmetadata : w.metadata = w'.metadata) (hvalue : ∀ f, w.value f = w'.value f) : w = w' := by
  obtain ⟨version, ⟨service, taxonomy, organization⟩, ⟨semanticSearch, keywordSearch, intentDriven⟩,
    ⟨weight, decayScale, decayOffset⟩, ⟨nouns, stemmedNouns⟩, metadata⟩ := w
  obtain rfl : version = _ := hversion
  obtain rfl : metadata = _ := hmetadata
  obtain rfl : service = _ := hvalue .service
  obtain rfl : taxonomy = _ := hvalue .taxonomy
  obtain rfl : organization = _ := hvalue .organization
  obtain rfl : semanticSearch = _ := hvalue .semanticSearch
  obtain rfl : keywordSearch = _ := hvalue .keywordSearch
  obtain rfl : intentDriven = _ := hvalue .intentDriven
  obtain rfl : weight = _ := hvalue .geoWeight
  obtain rfl : decayScale = _ := hvalue .decayScale
  obtain rfl : decayOffset = _ := hvalue .decayOffset
  obtain rfl : nouns = _ := hvalue .nouns
  obtain rfl : stemmedNouns = _ := hvalue .stemmedNouns
  rfl

namespace WeightOverride

variable (a b o : WeightOverride) (w : Weights) (f : WeightField)

/-- An override changes the fields that it names and no others. -/
theorem value_apply : (o.apply w).value f = (o.value? f).getD (w.value f) := by
  obtain ⟨semantic, strategies, geospatial, variations⟩ := o
  cases f with
  | service | taxonomy | organization => cases semantic <;> rfl
  | semanticSearch | keywordSearch | intentDriven => cases strategies <;> rfl
  | geoWeight | decayScale | decayOffset => cases geospatial <;> rfl
  | nouns | stemmedNouns => cases variations <;> rfl

theorem bind_mergeSections {α : Type} {merge : α → α → α} {get : α → Option Float}
    (hget : ∀ a b, get (merge a b) = (get b).or (get a)) (a b : Option α) :
    (mergeSections merge a b).bind get = (b.bind get).or (a.bind get) := by
  cases a with
  | none => exact Option.or_none.symm
  | some a =>
      cases b with
      | none => rfl
      | some b => exact hget a b

theorem value?_merge : (a.merge b).value? f = (b.value? f).or (a.value? f) := by
  cases f <;> exact bind_mergeSections (fun _ _ => Option.orElse_eq_or) _ _

theorem value?_toOverride (l : FlatWeights) : l.toOverride.value? f = l.value? f := by
  obtain ⟨semanticWeight, keywordWeight, intentWeight, geoWeight, decayScale, decayOffset⟩ := l
  cases f with
  | service | taxonomy | organization | nouns | stemmedNouns => rfl
  | semanticSearch | keywordSearch | intentDriven =>
      cases semanticWeight <;> cases keywordWeight <;> cases intentWeight <;> rfl
  | geoWeight | decayScale | decayOffset =>
      cases geoWeight <;> cases decayScale <;> cases decayOffset <;> rfl

theorem apply_merge : (a.merge b).apply w = b.apply (a.apply w) := by
  refine Weights.eq_of_value rfl rfl fun f => ?_
  calc ((a.merge b).apply w).value f
      = ((b.value? f).or (a.value? f)).getD (w.value f) := by rw [value_apply, value?_merge]
    _ = (b.value? f).getD ((a.value? f).getD (w.value f)) := Option.getD_or
    _ = (b.apply (a.apply w)).value f := by rw [value_apply, value_apply]

variable {o w}

theorem apply_of_unnamed (hunnamed : ∀ f, o.value? f = .none) : o.apply w = w := by
  refine Weights.eq_of_value rfl rfl fun f => ?_
  rw [value_apply, hunnamed f]
  rfl

end WeightOverride

namespace Weights

variable (w : Weights) (flat : FlatWeights) (custom : Option WeightOverride)

theorem value_apply_requestOverride (f : WeightField) :
    ((requestOverride flat custom).apply w).value f = w.layered flat custom f := by
  rw [WeightOverride.value_apply, layered]
  cases custom with
  | none => rw [requestOverride, Option.elim_none, WeightOverride.value?_toOverride]; rfl
  | some custom =>
      rw [requestOverride, Option.elim_some, WeightOverride.value?_merge,
        WeightOverride.value?_toOverride]
      rfl

theorem isValid_apply_requestOverride_iff : ((requestOverride flat custom).apply w).isValid ↔
    ∀ f : WeightField, f.admits (w.layered flat custom f) := by
  simp only [isValid_iff, value_apply_requestOverride]

theorem violations_apply_requestOverride : ((requestOverride flat custom).apply w).violations =
    (WeightField.all.filter fun f => !f.admits (w.layered flat custom f)).map
      fun f => ⟨f, w.layered flat custom f⟩ := by
  simp only [violations, value_apply_requestOverride]

/-- Custom weights matter by the numbers that they give, not by the sections they have. -/
theorem apply_requestOverride_congr {custom custom' : Option WeightOverride}
    (hsame : ∀ f, custom.bind (·.value? f) = custom'.bind (·.value? f)) :
    (requestOverride flat custom).apply w = (requestOverride flat custom').apply w := by
  refine eq_of_value rfl rfl fun f => ?_
  rw [value_apply_requestOverride, value_apply_requestOverride, layered, layered, hsame f]

variable {w}

/-- Weights in bounds would have passed the check that is left out for want of overrides. -/
theorem forRequest_of_isValid (hvalid : w.isValid) : w.forRequest flat custom =
    if ((requestOverride flat custom).apply w).isValid then .ok ((requestOverride flat custom).apply w)
    else .error ((requestOverride flat custom).apply w).violations := by
  unfold forRequest
  by_cases hempty : (requestOverride flat custom).isEmpty
  · simp only [hempty, WeightOverride.apply_of_isEmpty hempty, hvalid, ↓reduceIte]
  · simp only [hempty]
    rfl

theorem exists_forRequest_iff (hvalid : w.isValid) : (∃ w', w.forRequest flat custom = .ok w') ↔
    ∀ f : WeightField, f.admits (w.layered flat custom f) := by
  rw [← w.isValid_apply_requestOverride_iff, forRequest_of_isValid flat custom hvalid]
  split_ifs with hrange
  · exact ⟨fun _ => hrange, fun _ => ⟨_, rfl⟩⟩
  · exact ⟨nofun, fun hadmitted => absurd hadmitted hrange⟩

theorem forRequest_of_not_admits (hvalid : w.isValid) {f : WeightField}
    (hout : ¬ f.admits (w.layered flat custom f)) : w.forRequest flat custom =
      .error ((WeightField.all.filter fun f => !f.admits (w.layered flat custom f)).map
        fun f => ⟨f, w.layered flat custom f⟩) := by
  rw [forRequest_of_isValid flat custom hvalid, ← w.violations_apply_requestOverride, if_neg]
  intro hrange
  exact hout ((w.isValid_apply_requestOverride_iff flat custom).mp hrange f)

end Weights

/-- Overrides are laid one over the other field by field, and the result is checked as a whole.
Sections that name no field change nothing about it, nor about the check of what is laid over weights
in bounds. -/
theorem layers_fieldwise :
    (∀ (a b : WeightOverride) (w : Weights), (a.merge b).apply w = b.apply (a.apply w)) ∧
    (∀ (w w' : Weights) (flat : FlatWeights) (custom : Option WeightOverride),
      w.forRequest flat custom = .ok w' → (∀ f, w'.value f = w.layered flat custom f) ∧
        w'.version = w.version ∧ w'.metadata = w.metadata) ∧
    (∀ (w : Weights) (flat : FlatWeights) (custom : Option WeightOverride), w.isValid →
      ((∃ w', w.forRequest flat custom = .ok w') ↔
        ∀ f : WeightField, f.admits (w.layered flat custom f)) ∧
      ((∃ f : WeightField, ¬ f.admits (w.layered flat custom f)) → w.forRequest flat custom =
        .error ((WeightField.all.filter fun f => !f.admits (w.layered flat custom f)).map
          fun f => ⟨f, w.layered flat custom f⟩))) ∧
    (∀ o : WeightOverride, (∀ f, o.value? f = none) → ∀ w : Weights, o.apply w = w) ∧
    ∀ (w : Weights) (flat : FlatWeights) (custom custom' : Option WeightOverride),
      (∀ f, custom.bind (·.value? f) = custom'.bind (·.value? f)) →
        (requestOverride flat custom).apply w = (requestOverride flat custom').apply w ∧
        (w.isValid → w.forRequest flat custom = w.forRequest flat custom') := by
  refine ⟨WeightOverride.apply_merge, ?_, ?_, ?_, ?_⟩
  · intro w w' flat custom hresolved
    obtain ⟨-, rfl⟩ := Weights.forRequest_eq_ok_iff.mp hresolved
    exact ⟨w.value_apply_requestOverride flat custom, rfl, rfl⟩
  · intro w flat custom hvalid
    refine ⟨Weights.exists_forRequest_iff flat custom hvalid, ?_⟩
    rintro ⟨f, hout⟩
    exact Weights.forRequest_of_not_admits flat custom hvalid hout
  · intro o hunnamed w
    exact WeightOverride.apply_of_unnamed hunnamed
  · intro w flat custom custom' hsame
    have happly := w.apply_requestOverride_congr flat hsame
    refine ⟨happly, fun hvalid => ?_⟩
    rw [Weights.forRequest_of_isValid flat custom hvalid,
      Weights.forRequest_of_isValid flat custom' hvalid, happly]

/-- The first of these fields is named once more by the custom weights. -/
def flatKeywords : FlatWeights := ⟨none, some 4, none, some 0.5, none, none⟩

def noSemantics : WeightOverride := ⟨some ⟨none, none, none⟩, none, none, none⟩

def customKeywords : WeightOverride := { noSemantics with strategies := some ⟨none, some 6, none⟩ }

def tooWide : WeightOverride := ⟨none, none, some ⟨none, some 500, none⟩, none⟩

theorem layers_fieldwise_of_keywords : (∃ w,
      Weights.default.forRequest flatKeywords (some customKeywords) = .ok w ∧
      w.value .keywordSearch = 6 ∧ w.value .geoWeight = 0.5 ∧ w.value .service = 1) ∧
    Weights.default.forRequest flatKeywords (some tooWide) = .error [⟨.decayScale, 500⟩] ∧
    noSemantics.apply .default = .default ∧
    Weights.default.forRequest flatKeywords (some customKeywords) = Weights.default.forRequest
      flatKeywords (some { customKeywords with semantic := none }) := by
  obtain ⟨-, hvalue, hcheck, hunnamed, hsections⟩ := layers_fieldwise
  refine ⟨?_, ?_, ?_, ?_⟩
  · have hadmits (f : WeightField) :
        f.admits (Weights.default.layered flatKeywords (some customKeywords) f) := by
      cases f <;> decide +kernel
    obtain ⟨w, hw⟩ := (hcheck .default flatKeywords (some customKeywords)
      Weights.isValid_default).1.mpr hadmits
    obtain ⟨hlayered, -, -⟩ := hvalue _ _ _ _ hw
    exact ⟨w, hw, hlayered _, hlayered _, hlayered _⟩
  · have hwide : WeightField.all.filter (fun f =>
        !f.admits (Weights.default.layered flatKeywords (some tooWide) f)) = [.decayScale] := by
      decide +kernel
    have hrefused := (hcheck .default flatKeywords (some tooWide) Weights.isValid_default).2
      ⟨.decayScale, by decide +kernel⟩
    rwa [hwide] at hrefused
  · apply hunnamed
    intro f
    cases f <;> rfl
  · refine (hsections _ _ _ _ fun f => ?_).2 Weights.isValid_default
    cases f <;> rfl

end HybridSearch
