import Mathlib.Data.List.Perm.Basic

/-!
# Slices of a list

A list is cut into slices of one length, of which the last may be shorter. Whoever gives out the
slices one after another, each in any order, gives out the list once.
-/

namespace HybridSearch

variable {α β : Type} {limit n : Nat}

/-- The slice with a number, the first being number zero. -/
def slice (limit i : Nat) (l : List α) : List α := (l.drop (i * limit)).take limit

theorem slice_zero (l : List α) : slice limit 0 l = l.take limit := by
  rw [slice, Nat.zero_mul, List.drop_zero]

theorem slice_succ (i : Nat) (l : List α) :
    slice limit (i + 1) l = slice limit i (l.drop limit) := by
  rw [slice, slice, List.drop_drop, Nat.succ_mul, Nat.add_comm]

theorem map_slice (f : α → β) (i : Nat) (l : List α) :
    (slice limit i l).map f = slice limit i (l.map f) := by
  rw [slice, slice, List.map_take, List.map_drop]

theorem length_slice {i : Nat} {l : List α} (hfull : (i + 1) * limit ≤ l.length) :
    (slice limit i l).length = limit := by
  rw [Nat.succ_mul] at hfull
  rw [slice, List.length_take, List.length_drop]
  omega

/-- Pages that each show a slice, in any order, show the beginning of the list. -/
theorem flatMap_slices_perm {shown : β → List α} {pages : List β} {l : List α}
    (hpages : ∀ (i : Nat) (p : β), pages[i]? = some p → (shown p).Perm (slice limit i l)) :
    (pages.flatMap shown).Perm (l.take (pages.length * limit)) := by
  induction pages generalizing l with
  | nil => simp
  | cons first rest ih =>
      have hfirst : (shown first).Perm (l.take limit) := slice_zero l ▸ hpages 0 first rfl
      have hrest : (rest.flatMap shown).Perm ((l.drop limit).take (rest.length * limit)) :=
        ih fun i p hp => slice_succ i l ▸ hpages (i + 1) p hp
      rw [List.flatMap_cons, List.length_cons, Nat.succ_mul, Nat.add_comm, List.take_add]
      exact hfirst.append hrest

/-- How many slices a list of some length has; an empty list has one. -/
def sliceCount (limit n : Nat) : Nat := max 1 ((n + limit - 1) / limit)

theorem sliceCount_of_le (hpos : 0 < limit) (hle : n ≤ limit) : sliceCount limit n = 1 := by
  have hdiv : (n + limit - 1) / limit < 2 := (Nat.div_lt_iff_lt_mul hpos).mpr (by omega)
  rw [sliceCount]
  omega

theorem sliceCount_of_lt (hpos : 0 < limit) (hlt : limit < n) :
    sliceCount limit n = sliceCount limit (n - limit) + 1 := by
  have hstep : n + limit - 1 = (n - limit + limit - 1) + limit := by omega
  have hrest : 0 < (n - limit + limit - 1) / limit := Nat.div_pos (by omega) hpos
  rw [sliceCount, sliceCount, hstep, Nat.add_div_right _ hpos]
  omega

theorem le_sliceCount_mul (hpos : 0 < limit) : n ≤ sliceCount limit n * limit := by
  have hdiv := Nat.div_add_mod (n + limit - 1) limit
  have hmod := Nat.mod_lt (n + limit - 1) hpos
  rw [Nat.mul_comm] at hdiv
  calc n ≤ (n + limit - 1) / limit * limit := by omega
    _ ≤ sliceCount limit n * limit := Nat.mul_le_mul_right limit (Nat.le_max_right 1 _)

/-- Every slice before the last is full. -/
theorem mul_le_of_lt_sliceCount (hpos : 0 < limit) {i : Nat} (hi : i + 1 < sliceCount limit n) :
    (i + 1) * limit ≤ n := by
  have hdiv : i + 2 ≤ (n + limit - 1) / limit := by
    rw [sliceCount] at hi
    omega
  have hmul := (Nat.le_div_iff_mul_le hpos).mp hdiv
  rw [Nat.succ_mul] at hmul
  omega

end HybridSearch
