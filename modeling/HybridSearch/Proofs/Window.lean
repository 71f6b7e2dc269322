import HybridSearch.Proofs.Slice
import Mathlib.Data.List.Nodup

/-!
# Pages of lists that grow

Each page is cut from a list of its own, and the lists grow from page to page. Together the pages
show the beginning of the last list once exactly when no list changes what stands in the places that
earlier pages have shown.
-/

namespace HybridSearch

variable {α : Type} {size : Nat} {lists : Nat → List α}

def shownBefore (size : Nat) (lists : Nat → List α) (n : Nat) : List α :=
  (List.range n).flatMap fun i => slice size i (lists i)

theorem shownBefore_succ (n : Nat) :
    shownBefore size lists (n + 1) = shownBefore size lists n ++ slice size n (lists n) := by
  simp [shownBefore, List.range_succ]

theorem mem_shownBefore {n : Nat} {a : α} :
    a ∈ shownBefore size lists n ↔ ∃ i < n, a ∈ slice size i (lists i) := by
  simp [shownBefore]

theorem take_succ_mul (n : Nat) (l : List α) :
    l.take ((n + 1) * size) = l.take (n * size) ++ slice size n l := by
  rw [Nat.succ_mul, List.take_add, slice]

theorem length_shownBefore_le {n longest : Nat} (hlongest : ∀ i < n, (lists i).length ≤ longest) :
    (shownBefore size lists n).length ≤ min (n * size) longest := by
  induction n with
  | zero => simp [shownBefore]
  | succ n ih =>
      have hbefore := ih fun i hi => hlongest i (Nat.lt_succ_of_lt hi)
      have hlast := hlongest n (Nat.lt_succ_self n)
      rw [shownBefore_succ, List.length_append, slice, List.length_take, List.length_drop,
        Nat.succ_mul]
      omega

/-- Whether the list of each page has the same beginning as the one before, as far as the pages
before have shown it. -/
def KeepsShown (size : Nat) (lists : Nat → List α) (n : Nat) : Prop :=
  ∀ i, i + 1 < n → ((lists (i + 1)).take ((i + 1) * size)).Perm ((lists i).take ((i + 1) * size))

/-- If the beginnings stay, the pages show them. -/
theorem KeepsShown.shownBefore_perm {n : Nat} (hkeeps : KeepsShown size lists n) {i : Nat}
    (hi : i < n) :
    (shownBefore size lists (i + 1)).Perm ((lists i).take ((i + 1) * size)) := by
  induction i with
  | zero => simp [shownBefore, slice_zero]
  | succ i ih =>
      rw [shownBefore_succ, take_succ_mul]
      exact ((ih (Nat.lt_of_succ_lt hi)).trans (hkeeps i hi).symm).append_right _

/-- If the pages show the beginnings at all, they show nothing else and nothing twice, for they have
no room for it. -/
theorem shownBefore_perm_of_subset (hnodup : ∀ i, (lists i).Nodup)
    (hgrow : ∀ i j, i ≤ j → (lists i).length ≤ (lists j).length) {i : Nat}
    (hshown : (lists i).take ((i + 1) * size) ⊆ shownBefore size lists (i + 1)) :
    (shownBefore size lists (i + 1)).Perm ((lists i).take ((i + 1) * size)) := by
  have hsubperm := List.subperm_of_subset ((hnodup i).sublist (List.take_sublist _ _)) hshown
  refine (hsubperm.perm_of_length_le ?_).symm
  rw [List.length_take]
  exact length_shownBefore_le fun j hj => hgrow j i (Nat.le_of_lt_succ hj)

theorem keepsShown_iff (hnodup : ∀ i, (lists i).Nodup)
    (hgrow : ∀ i j, i ≤ j → (lists i).length ≤ (lists j).length) {n : Nat} :
    KeepsShown size lists n ↔
      ∀ i < n, (lists i).take ((i + 1) * size) ⊆ shownBefore size lists (i + 1) := by
  constructor
  · intro hkeeps i hi
    exact (hkeeps.shownBefore_perm hi).symm.subset
  · intro hshown i hi
    have hbefore := shownBefore_perm_of_subset hnodup hgrow (hshown i (Nat.lt_of_succ_lt hi))
    have hafter := shownBefore_perm_of_subset hnodup hgrow (hshown (i + 1) hi)
    rw [shownBefore_succ, take_succ_mul] at hafter
    exact ((List.perm_append_right_iff _).mp hafter).symm.trans hbefore

theorem KeepsShown.disjoint (hnodup : ∀ i, (lists i).Nodup) {n : Nat}
    (hkeeps : KeepsShown size lists n) {i j : Nat} (hi : i < j) (hj : j < n) :
    List.Disjoint (slice size i (lists i)) (slice size j (lists j)) := by
  have hall : (shownBefore size lists (j + 1)).Nodup :=
    (hkeeps.shownBefore_perm hj).nodup_iff.mpr ((hnodup j).sublist (List.take_sublist _ _))
  rw [shownBefore_succ, List.nodup_append'] at hall
  exact fun a hai haj => hall.2.2 (mem_shownBefore.mpr ⟨i, hi, hai⟩) haj

/-- The beginnings stay exactly when pages are disjoint and every beginning has been shown by the
end of its page. -/
theorem keepsShown_iff_partition (size n : Nat) {lists : Nat → List α}
    (hnodup : ∀ i, (lists i).Nodup)
    (hgrow : ∀ i j, i ≤ j → (lists i).length ≤ (lists j).length) :
    KeepsShown size lists n ↔
      (∀ i j, i < j → j < n → List.Disjoint (slice size i (lists i)) (slice size j (lists j))) ∧
        ∀ i < n, ∀ a ∈ (lists i).take ((i + 1) * size),
          ∃! j, j ≤ i ∧ a ∈ slice size j (lists j) := by
  constructor
  · intro hkeeps
    have hdisjoint : ∀ i j, i < j → j < n →
        List.Disjoint (slice size i (lists i)) (slice size j (lists j)) :=
      fun i j hi hj => hkeeps.disjoint hnodup hi hj
    refine ⟨hdisjoint, fun i hi a ha => ?_⟩
    obtain ⟨j, hj, haj⟩ := mem_shownBefore.mp ((hkeeps.shownBefore_perm hi).symm.subset ha)
    refine ⟨j, ⟨Nat.le_of_lt_succ hj, haj⟩, ?_⟩
    rintro k ⟨hk, hak⟩
    rcases Nat.lt_trichotomy k j with hlt | heq | hgt
    · exact absurd haj (hdisjoint k j hlt (by omega) hak)
    · exact heq
    · exact absurd hak (hdisjoint j k hgt (by omega) haj)
  · rintro ⟨-, hshown⟩
    refine (keepsShown_iff hnodup hgrow).mpr fun i hi a ha => ?_
    obtain ⟨j, ⟨hj, haj⟩, -⟩ := hshown i hi a ha
    exact mem_shownBefore.mpr ⟨j, Nat.lt_succ_of_le hj, haj⟩

end HybridSearch
