import Mathlib.Data.List.Nodup

/-!
# Lists without repetitions

What is kept of a list when repetitions are dropped has none, holds what the list holds, and has it
in the order in which it is met first.
-/

namespace HybridSearch

theorem nodup_eraseDups {α : Type} [BEq α] [LawfulBEq α] (l : List α) : l.eraseDups.Nodup := by
  induction hlength : l.length using Nat.strongRecOn generalizing l with
  | ind n ih =>
      cases l with
      | nil => simp
      | cons a rest =>
          have hshorter : (rest.filter fun b => !b == a).length < n :=
            hlength ▸ Nat.lt_succ_of_le (List.length_filter_le _ _)
          rw [List.eraseDups_cons]
          exact List.nodup_cons.mpr
            ⟨fun hmem => by simpa using List.mem_eraseDups.mp hmem, ih _ hshorter _ rfl⟩

theorem eraseDups_of_nodup {α : Type} [BEq α] [LawfulBEq α] {l : List α} (hnodup : l.Nodup) :
    l.eraseDups = l := by
  induction l with
  | nil => rfl
  | cons a rest ih =>
      obtain ⟨hnew, hrest⟩ := List.nodup_cons.mp hnodup
      have hkeep : rest.filter (fun b => !b == a) = rest := by
        refine List.filter_eq_self.mpr fun b hb => ?_
        have hother : b ≠ a := fun heq => hnew (heq ▸ hb)
        simpa using hother
      rw [List.eraseDups_cons, hkeep, ih hrest]

theorem eraseDups_filter {α : Type} [BEq α] [LawfulBEq α] (p : α → Bool) (l : List α) :
    (l.filter p).eraseDups = l.eraseDups.filter p := by
  induction hlength : l.length using Nat.strongRecOn generalizing l with
  | ind n ih =>
      cases l with
      | nil => rfl
      | cons a rest =>
          have hshorter : (rest.filter fun b => !b == a).length < n :=
            hlength ▸ Nat.lt_succ_of_le (List.length_filter_le _ _)
          have hrest := ih _ hshorter _ rfl
          rw [List.eraseDups_cons]
          cases ha : p a with
          | true =>
              rw [List.filter_cons_of_pos ha, List.filter_cons_of_pos ha, List.eraseDups_cons,
                List.filter_comm, hrest]
          | false =>
              -- What is left out with `a` is left out by `p` too.
              have hother : (rest.filter p).filter (fun b => !b == a) = rest.filter p := by
                refine List.filter_eq_self.mpr fun b hb => ?_
                have hne : b ≠ a := by
                  rintro rfl
                  rw [(List.mem_filter.mp hb).2] at ha
                  cases ha
                simpa using hne
              have hkept : p a ≠ true := Bool.eq_false_iff.mp ha
              rw [List.filter_cons_of_neg hkept, List.filter_cons_of_neg hkept, ← hrest,
                List.filter_comm, hother]

/-- Whether `a` is met in a list before `b` is. -/
def FirstBefore {α : Type} (l : List α) (a b : α) : Prop :=
  ∃ front, front <+: l ∧ a ∈ front ∧ b ∉ front

section

variable {α : Type} [BEq α] [LawfulBEq α] {l : List α} {a b x : α}

theorem FirstBefore.cons (hrest : FirstBefore (l.filter fun c => !c == x) a b) (hb : b ≠ x) :
    FirstBefore (x :: l) a b := by
  obtain ⟨front, hfront, hmem, hlater⟩ := hrest
  obtain ⟨kept, hkept, rfl⟩ := List.prefix_filter_iff.mp hfront
  refine ⟨x :: kept, (List.prefix_cons_inj x).mpr hkept,
    List.mem_cons_of_mem x (List.mem_of_mem_filter hmem), ?_⟩
  rw [List.mem_cons, not_or]
  exact ⟨hb, fun hmem' => hlater (List.mem_filter.mpr ⟨hmem', by simpa using hb⟩)⟩

omit [LawfulBEq α] [BEq α] in
theorem FirstBefore.of_filter {p : α → Bool} (hbefore : FirstBefore (l.filter p) a b) (hb : p b) :
    FirstBefore l a b := by
  obtain ⟨front, hfront, hmem, hlater⟩ := hbefore
  obtain ⟨kept, hkept, rfl⟩ := List.prefix_filter_iff.mp hfront
  exact ⟨kept, hkept, List.mem_of_mem_filter hmem,
    fun hmem' => hlater (List.mem_filter.mpr ⟨hmem', hb⟩)⟩

theorem pairwise_eraseDups (l : List α) : l.eraseDups.Pairwise (FirstBefore l) := by
  induction hlength : l.length using Nat.strongRecOn generalizing l with
  | ind n ih =>
      cases l with
      | nil => exact List.Pairwise.nil
      | cons x rest =>
          have hshorter : (rest.filter fun c => !c == x).length < n :=
            hlength ▸ Nat.lt_succ_of_le (List.length_filter_le _ _)
          have hother : ∀ b ∈ (rest.filter fun c => !c == x).eraseDups, b ≠ x := by
            intro b hb
            simpa using (List.mem_filter.mp (List.mem_eraseDups.mp hb)).2
          rw [List.eraseDups_cons, List.pairwise_cons]
          constructor
          · intro b hb
            exact ⟨[x], by simp, List.mem_singleton_self x, by simpa using hother b hb⟩
          · exact (ih _ hshorter _ rfl).imp_of_mem fun _ hb hbefore => hbefore.cons (hother _ hb)

/-- What is kept of some members only comes in the order of all. -/
theorem pairwise_eraseDups_filter (p : α → Bool) (l : List α) :
    (l.filter p).eraseDups.Pairwise (FirstBefore l) := by
  refine (pairwise_eraseDups (l.filter p)).imp_of_mem fun _ hb hbefore => hbefore.of_filter ?_
  exact (List.mem_filter.mp (List.mem_eraseDups.mp hb)).2

end

theorem exists_first {α : Type} {l : List α} {P : α → Prop} [DecidablePred P]
    (hsome : ∃ x ∈ l, P x) : ∃ front x back, l = front ++ x :: back ∧ P x ∧ ∀ y ∈ front, ¬ P y := by
  have hfound : (l.find? fun y => decide (P y)).isSome := by simpa using hsome
  obtain ⟨x, hx⟩ := Option.isSome_iff_exists.mp hfound
  obtain ⟨hP, front, back, hsplit, hfront⟩ := List.find?_eq_some_iff_append.mp hx
  exact ⟨front, x, back, hsplit, by simpa using hP, by simpa using hfront⟩

end HybridSearch
