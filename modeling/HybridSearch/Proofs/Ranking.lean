import HybridSearch.Fusion
import HybridSearch.Proofs.Distinct
import Mathlib.Data.List.Perm.Basic
import Mathlib.Data.List.Sort

/-!
# One place for every document

Fusion gathers what all strategies found for a document under its id before it ranks, so no id
stands twice in the ranked list. Everything that says where a page begins by naming a document rests
on this.
-/

namespace HybridSearch

@[simp]
theorem fuse_id (geo : Option GeoScorer) (id : String) (found : List (StrategyResult × Hit)) :
    (fuse geo id found).id = id := rfl

variable (results : List StrategyResult) (geo : Option GeoScorer)

theorem mem_map_allHits {β : Type} {f : StrategyResult × Hit → β} {b : β} :
    b ∈ (allHits results).map f ↔ ∃ r ∈ results, ∃ h ∈ r.hits, f (r, h) = b := by
  simp only [allHits, List.mem_map, List.mem_flatMap]
  constructor
  · rintro ⟨_, ⟨r, hr, h, hh, rfl⟩, rfl⟩
    exact ⟨r, hr, h, hh, rfl⟩
  · rintro ⟨r, hr, h, hh, rfl⟩
    exact ⟨(r, h), ⟨r, hr, h, hh, rfl⟩, rfl⟩

def foundIds : List String := ((allHits results).map (·.2.id)).eraseDups

/-- The documents found, in the order in which they were found first. -/
def fusedHits : List CombinedHit :=
  (foundIds results).map fun id => fuse geo id ((allHits results).filter (·.2.id = id))

theorem sortHits_perm (hits : List CombinedHit) : (sortHits hits).Perm hits :=
  List.mergeSort_perm hits _

theorem nodup_ids_sortHits {hits : List CombinedHit} (hnodup : (hits.map (·.id)).Nodup) :
    ((sortHits hits).map (·.id)).Nodup :=
  ((sortHits_perm hits).map _).nodup_iff.mpr hnodup

theorem combine_perm : (combine results geo).Perm (fusedHits results geo) := sortHits_perm _

theorem ids_combine_perm : ((combine results geo).map (·.id)).Perm (foundIds results) := by
  simpa [fusedHits, Function.comp_def] using (combine_perm results geo).map (·.id)

theorem nodup_ids_combine : ((combine results geo).map (·.id)).Nodup :=
  (ids_combine_perm results geo).nodup_iff.mpr (nodup_eraseDups _)

theorem mem_ids_combine {id : String} :
    id ∈ (combine results geo).map (·.id) ↔ ∃ r ∈ results, ∃ h ∈ r.hits, h.id = id := by
  rw [(ids_combine_perm results geo).mem_iff, foundIds, List.mem_eraseDups, mem_map_allHits]

/-- A document as it is fused when a single hit was found for it. -/
def Hit.alone (h : Hit) (strategy : String) (weight : Score) : CombinedHit :=
  ⟨h.id, .sum [h.score * weight], [⟨strategy, h.score, weight⟩], h.source⟩

theorem key_ne_of_nodup {α κ : Type} {key : α → κ} {before after : List α} {a : α}
    (hnodup : ((before ++ a :: after).map key).Nodup) :
    (∀ b ∈ before, key b ≠ key a) ∧ ∀ b ∈ after, key b ≠ key a := by
  rw [List.map_append, List.map_cons, List.nodup_append, List.nodup_cons] at hnodup
  constructor
  · intro b hb
    exact hnodup.2.2 _ (List.mem_map_of_mem hb) _ List.mem_cons_self
  · intro b hb heq
    exact hnodup.2.1.1 (heq ▸ List.mem_map_of_mem hb)

theorem filter_id_of_nodup {found : List (StrategyResult × Hit)}
    (hnodup : (found.map (·.2.id)).Nodup) {f : StrategyResult × Hit} (hmem : f ∈ found) :
    found.filter (·.2.id = f.2.id) = [f] := by
  obtain ⟨before, after, rfl⟩ := List.append_of_mem hmem
  obtain ⟨hbefore, hafter⟩ := key_ne_of_nodup hnodup
  rw [List.filter_append, List.filter_eq_nil_iff.mpr (by simpa using hbefore), List.filter_cons,
    List.filter_eq_nil_iff.mpr (by simpa using hafter)]
  simp

/-- Fusion changes nothing about documents that were found once each. -/
theorem mem_combine_iff_of_nodup (hnodup : ((allHits results).map (·.2.id)).Nodup)
    {x : CombinedHit} :
    x ∈ combine results none ↔ ∃ r ∈ results, ∃ h ∈ r.hits, h.alone r.strategy r.weight = x := by
  have hfuse : fusedHits results none
      = (allHits results).map fun f => f.2.alone f.1.strategy f.1.weight := by
    rw [fusedHits, foundIds, eraseDups_of_nodup hnodup, List.map_map]
    refine List.map_congr_left fun f hf => ?_
    simp only [Function.comp_apply, filter_id_of_nodup hnodup hf]
    rfl
  rw [(combine_perm results none).mem_iff, hfuse, mem_map_allHits]

namespace CombinedHit

variable {a b c : CombinedHit}

theorem notAfter_iff : a.notAfter b ↔
    b.total.rank < a.total.rank ∨ a.total.rank = b.total.rank ∧ a.id ≤ b.id := by
  simp [notAfter]

theorem notAfter_trans (a b c : CombinedHit) (hab : a.notAfter b) (hbc : b.notAfter c) :
    a.notAfter c := by
  rw [notAfter_iff] at *
  rcases hab with hab | ⟨hab, hid⟩ <;> rcases hbc with hbc | ⟨hbc, hid'⟩
  · exact .inl (hbc.trans hab)
  · exact .inl (hbc ▸ hab)
  · exact .inl (hab ▸ hbc)
  · exact .inr ⟨hab.trans hbc, String.le_trans hid hid'⟩

theorem notAfter_total (a b : CombinedHit) : a.notAfter b || b.notAfter a := by
  rw [Bool.or_eq_true, notAfter_iff, notAfter_iff]
  rcases lt_trichotomy a.total.rank b.total.rank with hlt | heq | hgt
  · exact .inr (.inl hlt)
  · rcases String.le_total a.id b.id with hid | hid
    · exact .inl (.inr ⟨heq, hid⟩)
    · exact .inr (.inr ⟨heq.symm, hid⟩)
  · exact .inl (.inl hgt)

/-- The order of a ranking, in which no two documents are in the same place. -/
def Before (a b : CombinedHit) : Prop :=
  b.total.rank < a.total.rank ∨ b.total.rank = a.total.rank ∧ a.id < b.id

theorem before_of_notAfter (hab : a.notAfter b) (hid : a.id ≠ b.id) : a.Before b := by
  rcases notAfter_iff.mp hab with hlt | ⟨heq, hle⟩
  · exact .inl hlt
  · exact .inr ⟨heq.symm, Std.lt_of_le_of_ne hle hid⟩

theorem Before.asymm (hab : a.Before b) : ¬ b.Before a := by
  rcases hab with hlt | ⟨heq, hid⟩
  · rintro (hgt | ⟨heq, -⟩) <;> omega
  · rintro (hgt | ⟨-, hid'⟩)
    · omega
    · exact String.lt_asymm hid hid'

theorem id_eq_of_notAfter (hab : a.notAfter b) (hba : b.notAfter a) : a.id = b.id := by
  rw [notAfter_iff] at *
  rcases hab with hab | ⟨hab, hid⟩ <;> rcases hba with hba | ⟨hba, hid'⟩
  · omega
  · omega
  · omega
  · exact String.le_antisymm hid hid'

end CombinedHit

theorem pairwise_sortHits (hits : List CombinedHit) :
    (sortHits hits).Pairwise (fun a b => a.notAfter b) :=
  List.pairwise_mergeSort CombinedHit.notAfter_trans CombinedHit.notAfter_total hits

theorem pairwise_before {hits : List CombinedHit}
    (hsorted : hits.Pairwise fun a b => a.notAfter b) (hnodup : (hits.map (·.id)).Nodup) :
    hits.Pairwise CombinedHit.Before :=
  (List.pairwise_and_iff.mpr ⟨hsorted, List.pairwise_map.mp hnodup⟩).imp
    fun ⟨hab, hid⟩ => CombinedHit.before_of_notAfter hab hid

theorem pairwise_combine : (combine results geo).Pairwise (fun a b => a.notAfter b) :=
  pairwise_sortHits (fusedHits results geo)

/-- Whatever holds the documents in order is the ranking, for no two of them stand in one place. -/
theorem eq_combine {ranking : List CombinedHit} (hperm : ranking.Perm (fusedHits results geo))
    (hsorted : ranking.Pairwise (fun a b => a.notAfter b)) : ranking = combine results geo := by
  have hsame := hperm.trans (combine_perm results geo).symm
  refine hsame.eq_of_pairwise (fun a b ha hb hab hba => ?_) hsorted (pairwise_combine results geo)
  exact List.inj_on_of_nodup_map (nodup_ids_combine results geo) (hsame.subset ha) hb
    (CombinedHit.id_eq_of_notAfter hab hba)

theorem combine_eq_insertionSort :
    combine results geo = (fusedHits results geo).insertionSort (fun a b => a.notAfter b) := by
  have : Std.Total (fun a b : CombinedHit => a.notAfter b = true) :=
    ⟨fun a b => (Bool.or_eq_true _ _).mp (CombinedHit.notAfter_total a b)⟩
  have : IsTrans CombinedHit (fun a b => a.notAfter b = true) := ⟨CombinedHit.notAfter_trans⟩
  exact (eq_combine results geo (List.perm_insertionSort _ _)
      (List.pairwise_insertionSort _ _)).symm

section

variable {results results' : List StrategyResult} {geo}

/-- A document that as many others come before is not among the first. -/
theorem not_mem_take_combine {x : CombinedHit} {earlier : List CombinedHit}
    (hnodup : (earlier.map (·.id)).Nodup)
    (hearlier : ∀ y ∈ earlier, y ∈ combine results geo ∧ y.notAfter x ∧ y.id ≠ x.id) :
    x ∉ (combine results geo).take earlier.length := by
  intro hx
  obtain ⟨front, back, htake⟩ := List.append_of_mem hx
  have hshort : front.length < earlier.length := by
    have hlength := congrArg List.length htake
    rw [List.length_take, List.length_append, List.length_cons] at hlength
    omega
  have hsplit : combine results geo
      = front ++ x :: (back ++ (combine results geo).drop earlier.length) := by
    rw [← List.cons_append, ← List.append_assoc, ← htake, List.take_append_drop]
  have hsorted := pairwise_combine results geo
  rw [hsplit, List.pairwise_append, List.pairwise_cons] at hsorted
  -- All of them stand before it, where there is not room enough.
  have hfront : earlier ⊆ front := by
    intro y hy
    obtain ⟨hmem, hbefore, hother⟩ := hearlier y hy
    rw [hsplit, List.mem_append, List.mem_cons] at hmem
    rcases hmem with hfront | rfl | hafter
    · exact hfront
    · exact absurd rfl hother
    · exact absurd (CombinedHit.id_eq_of_notAfter hbefore (hsorted.2.1.1 y hafter)) hother
  have hlength := (List.subperm_of_subset (List.Nodup.of_map _ hnodup) hfront).length_le
  omega

/-- Of a ranking of more documents, those that were found before are ranked as before. -/
theorem filter_combine (hmore : combine results geo ⊆ combine results' geo) :
    (combine results' geo).filter (fun h => h.id ∈ foundIds results) = combine results geo := by
  have hnodup (found : List StrategyResult) : (combine found geo).Nodup :=
    List.Nodup.of_map _ (nodup_ids_combine found geo)
  have hmem (x : CombinedHit) :
      x ∈ (combine results' geo).filter (fun h => h.id ∈ foundIds results) ↔
        x ∈ combine results geo := by
    rw [List.mem_filter, decide_eq_true_iff, ← (ids_combine_perm results geo).mem_iff]
    refine ⟨?_, fun hx => ⟨hmore hx, List.mem_map_of_mem hx⟩⟩
    rintro ⟨hx, hfound⟩
    obtain ⟨y, hy, hid⟩ := List.mem_map.mp hfound
    rwa [← List.inj_on_of_nodup_map (nodup_ids_combine results' geo) (hmore hy) hx hid]
  have hperm := (List.perm_ext_iff_of_nodup ((hnodup results').filter _) (hnodup results)).mpr hmem
  exact eq_combine results geo (hperm.trans (combine_perm results geo))
    ((pairwise_combine results' geo).filter _)

/-- More documents, none of which is among the first, leave the first places as they were. -/
theorem take_combine_eq {n : Nat} (hmore : combine results geo ⊆ combine results' geo)
    (hlate : ∀ x ∈ combine results' geo, x.id ∉ foundIds results →
      x ∉ (combine results' geo).take n) :
    (combine results' geo).take n = (combine results geo).take n := by
  have hfirst : ((combine results' geo).take n).filter (fun h => h.id ∈ foundIds results)
      = (combine results' geo).take n := by
    refine List.filter_eq_self.mpr fun x hx => decide_eq_true ?_
    by_contra hunknown
    exact hlate x (List.mem_of_mem_take hx) hunknown hx
  have hsplit : combine results geo = (combine results' geo).take n
      ++ ((combine results' geo).drop n).filter (fun h => h.id ∈ foundIds results) := by
    calc combine results geo
        = ((combine results' geo).take n ++ (combine results' geo).drop n).filter
            (fun h => h.id ∈ foundIds results) := by
          rw [List.take_append_drop, filter_combine hmore]
      _ = _ := by rw [List.filter_append, hfirst]
  rw [hsplit]
  rcases Nat.le_total n (combine results' geo).length with hle | hle
  · rw [List.take_left' (List.length_take_of_le hle)]
  · rw [List.drop_eq_nil_of_le hle, List.filter_nil, List.append_nil, List.take_take, Nat.min_self]

end

end HybridSearch
