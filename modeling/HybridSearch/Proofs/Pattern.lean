import HybridSearch.Text.Pattern

/-!
# What a pattern accepts

A text is matched a character at a time, by what may follow each character. The patterns on the way
are kept small, but they stand for the same texts, so a pattern accepts what it stands for and
nothing else. What is true of every class of characters in a pattern is true of every character of a
match, and likewise for the classes that a match can begin with or end in.
-/

namespace HybridSearch.Text.Pattern

variable {a b : Pattern} {c : Char} {s : List Char}

/-! ### The texts of each kind of pattern -/

@[simp]
theorem not_matches_never : ¬ Matches never s := by
  intro h
  cases h

@[simp]
theorem matches_empty_iff : Matches empty s ↔ s = [] := by
  constructor
  · intro h
    cases h
    rfl
  · rintro rfl
    exact .empty

@[simp]
theorem matches_one_iff {p : Char → Bool} : Matches (one p) s ↔ ∃ c, p c ∧ s = [c] := by
  constructor
  · intro h
    cases h with
    | one hc => exact ⟨_, hc, rfl⟩
  · rintro ⟨c, hc, rfl⟩
    exact .one hc

@[simp]
theorem matches_char_iff : Matches (char c) s ↔ s = [c] := by
  simp [char]

@[simp]
theorem matches_seq_iff :
    Matches (seq a b) s ↔ ∃ t u, Matches a t ∧ Matches b u ∧ s = t ++ u := by
  constructor
  · intro h
    cases h with
    | seq ha hb => exact ⟨_, _, ha, hb, rfl⟩
  · rintro ⟨t, u, ha, hb, rfl⟩
    exact .seq ha hb

@[simp]
theorem matches_alt_iff : Matches (alt a b) s ↔ Matches a s ∨ Matches b s := by
  constructor
  · intro h
    cases h with
    | altLeft h => exact .inl h
    | altRight h => exact .inr h
  · rintro (h | h)
    · exact .altLeft h
    · exact .altRight h

@[simp]
theorem matches_optional_iff : Matches (optional a) s ↔ Matches a s ∨ s = [] := by
  rw [optional, matches_alt_iff, matches_empty_iff]

/-- The first repetition with a character in it begins the text. -/
theorem matches_star_cons_iff : Matches (star a) (c :: s) ↔
    ∃ t u, Matches a (c :: t) ∧ Matches (star a) u ∧ s = t ++ u := by
  constructor
  · intro h
    generalize hbody : star a = body at h
    generalize htext : c :: s = text at h
    induction h with
    | empty => cases hbody
    | one => cases hbody
    | seq => cases hbody
    | altLeft => cases hbody
    | altRight => cases hbody
    | starNil => cases htext
    | @starCons a' t u ha hstar _ ih =>
        cases hbody
        cases t with
        | nil => exact ih rfl htext
        | cons d t =>
            obtain ⟨rfl, rfl⟩ := List.cons.inj htext
            exact ⟨t, u, ha, hstar, rfl⟩
  · rintro ⟨t, u, ha, hstar, rfl⟩
    exact .starCons ha hstar

theorem matches_star_one_iff {p : Char → Bool} : Matches (star (one p)) s ↔ ∀ c ∈ s, p c := by
  induction s with
  | nil => simp [Matches.starNil]
  | cons c s ih =>
      rw [matches_star_cons_iff, List.forall_mem_cons, ← ih]
      constructor
      · rintro ⟨t, u, ht, hu, rfl⟩
        obtain ⟨d, hd, htext⟩ := matches_one_iff.mp ht
        obtain ⟨rfl, rfl⟩ := List.cons.inj htext
        exact ⟨hd, hu⟩
      · rintro ⟨hc, hs⟩
        exact ⟨[], s, .one hc, hs, rfl⟩

theorem matches_plus_one_iff {p : Char → Bool} :
    Matches (plus (one p)) s ↔ s ≠ [] ∧ ∀ c ∈ s, p c := by
  rw [plus, matches_seq_iff]
  constructor
  · rintro ⟨t, u, ht, hu, rfl⟩
    obtain ⟨c, hc, rfl⟩ := matches_one_iff.mp ht
    exact ⟨List.cons_ne_nil _ _, List.forall_mem_cons.mpr ⟨hc, matches_star_one_iff.mp hu⟩⟩
  · rintro ⟨hsome, hs⟩
    obtain ⟨c, s, rfl⟩ := List.exists_cons_of_ne_nil hsome
    rw [List.forall_mem_cons] at hs
    exact ⟨[c], s, .one hs.1, matches_star_one_iff.mpr hs.2, rfl⟩

theorem matches_literal_iff {text : String} : Matches (literal text) s ↔ s = text.toList := by
  rw [literal]
  induction text.toList generalizing s with
  | nil => exact matches_empty_iff
  | cons c cs ih =>
      rw [List.foldr_cons, matches_seq_iff]
      constructor
      · rintro ⟨t, u, ht, hu, rfl⟩
        rw [ih.mp hu, matches_char_iff.mp ht]
        rfl
      · rintro rfl
        exact ⟨[c], cs, matches_char_iff.mpr rfl, ih.mpr rfl, rfl⟩

/-! ### Repetitions -/

/-- So many characters of a class. -/
theorem matches_repeated_one_iff {p : Char → Bool} {n : Nat} :
    Matches (repeated (one p) n) s ↔ s.length = n ∧ ∀ c ∈ s, p c := by
  induction n generalizing s with
  | zero =>
      rw [repeated, matches_empty_iff, List.length_eq_zero_iff]
      exact ⟨fun hnone => ⟨hnone, by simp [hnone]⟩, And.left⟩
  | succ n ih =>
      rw [repeated, matches_seq_iff]
      constructor
      · rintro ⟨t, u, ht, hu, rfl⟩
        obtain ⟨c, hc, rfl⟩ := matches_one_iff.mp ht
        obtain ⟨hlength, hall⟩ := ih.mp hu
        exact ⟨congrArg Nat.succ hlength, List.forall_mem_cons.mpr ⟨hc, hall⟩⟩
      · rintro ⟨hlength, hall⟩
        obtain ⟨c, s, rfl⟩ := List.exists_cons_of_length_eq_add_one hlength
        rw [List.forall_mem_cons] at hall
        exact ⟨[c], s, .one hall.1, ih.mpr ⟨Nat.succ.inj hlength, hall.2⟩, rfl⟩

/-- What is repeated up to so many times is joined of no more texts. -/
theorem matches_upTo_iff {n : Nat} : Matches (upTo a n) s ↔
    ∃ parts : List (List Char), parts.length ≤ n ∧ (∀ t ∈ parts, Matches a t) ∧
      s = parts.flatten := by
  induction n generalizing s with
  | zero =>
      rw [upTo, matches_empty_iff]
      constructor
      · rintro rfl
        exact ⟨[], Nat.le_refl 0, by simp, rfl⟩
      · rintro ⟨parts, hfew, -, rfl⟩
        rw [List.eq_nil_of_length_eq_zero (Nat.le_zero.mp hfew)]
        rfl
  | succ n ih =>
      rw [upTo, matches_optional_iff, matches_seq_iff]
      constructor
      · rintro (⟨t, u, ht, hu, rfl⟩ | rfl)
        · obtain ⟨parts, hfew, hparts, rfl⟩ := ih.mp hu
          exact ⟨t :: parts, Nat.succ_le_succ hfew, List.forall_mem_cons.mpr ⟨ht, hparts⟩, rfl⟩
        · exact ⟨[], Nat.zero_le _, by simp, rfl⟩
      · rintro ⟨parts, hfew, hparts, rfl⟩
        cases parts with
        | nil => exact .inr rfl
        | cons t parts =>
            rw [List.forall_mem_cons] at hparts
            exact .inl ⟨t, parts.flatten, hparts.1,
              ih.mpr ⟨parts, Nat.le_of_succ_le_succ hfew, hparts.2, rfl⟩, rfl⟩

/-- At most so many characters of a class. -/
theorem matches_upTo_one_iff {p : Char → Bool} {n : Nat} :
    Matches (upTo (one p) n) s ↔ s.length ≤ n ∧ ∀ c ∈ s, p c := by
  induction n generalizing s with
  | zero =>
      rw [upTo, matches_empty_iff, Nat.le_zero, List.length_eq_zero_iff]
      exact ⟨fun hnone => ⟨hnone, by simp [hnone]⟩, And.left⟩
  | succ n ih =>
      rw [upTo, matches_optional_iff, matches_seq_iff]
      constructor
      · rintro (⟨t, u, ht, hu, rfl⟩ | rfl)
        · obtain ⟨c, hc, rfl⟩ := matches_one_iff.mp ht
          obtain ⟨hlength, hall⟩ := ih.mp hu
          exact ⟨Nat.succ_le_succ hlength, List.forall_mem_cons.mpr ⟨hc, hall⟩⟩
        · exact ⟨Nat.zero_le _, by simp⟩
      · rintro ⟨hlength, hall⟩
        cases s with
        | nil => exact .inr rfl
        | cons c s =>
            rw [List.forall_mem_cons] at hall
            exact .inl ⟨[c], s, .one hall.1,
              ih.mpr ⟨Nat.le_of_succ_le_succ hlength, hall.2⟩, rfl⟩

theorem matches_between_one_iff {p : Char → Bool} {m n : Nat} :
    Matches (between (one p) m n) s ↔ (m ≤ s.length ∧ s.length ≤ m + n) ∧ ∀ c ∈ s, p c := by
  rw [between, matches_seq_iff]
  constructor
  · rintro ⟨t, u, ht, hu, rfl⟩
    obtain ⟨hfirst, ht⟩ := matches_repeated_one_iff.mp ht
    obtain ⟨hlater, hu⟩ := matches_upTo_one_iff.mp hu
    rw [List.length_append, hfirst]
    exact ⟨⟨Nat.le_add_right m _, Nat.add_le_add_left hlater m⟩,
      List.forall_mem_append.mpr ⟨ht, hu⟩⟩
  · rintro ⟨⟨hleast, hmost⟩, hall⟩
    refine ⟨s.take m, s.drop m, matches_repeated_one_iff.mpr ⟨List.length_take_of_le hleast, ?_⟩,
      matches_upTo_one_iff.mpr ⟨?_, ?_⟩, (List.take_append_drop m s).symm⟩
    · exact fun c hc => hall c (List.mem_of_mem_take hc)
    · rw [List.length_drop]
      omega
    · exact fun c hc => hall c (List.mem_of_mem_drop hc)

/-! ### Matching by derivatives -/

theorem nullable_iff : a.nullable ↔ Matches a [] := by
  induction a with
  | never => simp [nullable]
  | empty => simp [nullable]
  | one p => simp [nullable]
  | seq a b iha ihb => simp [nullable, iha, ihb]
  | alt a b iha ihb => simp [nullable, iha, ihb]
  | star a _ => simpa [nullable] using Matches.starNil

theorem matches_seq'_iff : Matches (seq' a b) s ↔ Matches (seq a b) s := by
  unfold seq'
  split <;> simp

theorem matches_alt'_iff : Matches (alt' a b) s ↔ Matches (alt a b) s := by
  unfold alt'
  split <;> simp

/-- The derivative stands for what may follow the character. -/
theorem matches_derivative_iff : Matches (a.derivative c) s ↔ Matches a (c :: s) := by
  induction a generalizing s with
  | never => simp [derivative]
  | empty => simp [derivative]
  | one p =>
      have hone : Matches (one p) (c :: s) ↔ p c ∧ s = [] := by
        rw [matches_one_iff]
        constructor
        · rintro ⟨d, hd, htext⟩
          obtain ⟨rfl, rfl⟩ := List.cons.inj htext
          exact ⟨hd, rfl⟩
        · rintro ⟨hc, rfl⟩
          exact ⟨c, hc, rfl⟩
      rw [hone, derivative]
      by_cases hc : p c <;> simp [hc]
  | seq a b iha ihb =>
      -- The character begins the first text, or the first text is empty and it begins the second.
      have hsplit : Matches (seq a b) (c :: s) ↔
          (∃ t u, Matches a (c :: t) ∧ Matches b u ∧ s = t ++ u) ∨
            Matches a [] ∧ Matches b (c :: s) := by
        rw [matches_seq_iff]
        constructor
        · rintro ⟨t, u, ha, hb, htext⟩
          cases t with
          | nil =>
              rw [List.nil_append] at htext
              exact .inr ⟨ha, htext ▸ hb⟩
          | cons d t =>
              obtain ⟨rfl, rfl⟩ := List.cons.inj htext
              exact .inl ⟨t, u, ha, hb, rfl⟩
        · rintro (⟨t, u, ha, hb, rfl⟩ | ⟨ha, hb⟩)
          · exact ⟨c :: t, u, ha, hb, rfl⟩
          · exact ⟨[], c :: s, ha, hb, rfl⟩
      rw [hsplit, derivative, ← nullable_iff]
      by_cases hnullable : a.nullable
      · simp [hnullable, matches_alt'_iff, matches_seq'_iff, iha, ihb]
      · simp [hnullable, matches_seq'_iff, iha]
  | alt a b iha ihb => simp [derivative, matches_alt'_iff, iha, ihb]
  | star a ih => simp [derivative, matches_seq'_iff, matches_star_cons_iff, ih]

theorem accepts_iff : a.accepts s ↔ Matches a s := by
  induction s generalizing a with
  | nil => exact nullable_iff
  | cons c s ih => rw [accepts, ih, matches_derivative_iff]

/-! ### The characters of a match -/

/-- The classes of characters that a pattern speaks of. -/
def classes : Pattern → List (Char → Bool)
  | never => []
  | empty => []
  | one p => [p]
  | seq a b => a.classes ++ b.classes
  | alt a b => a.classes ++ b.classes
  | star a => a.classes

/-- The classes that the first character of a match can be of. -/
def firsts : Pattern → List (Char → Bool)
  | never => []
  | empty => []
  | one p => [p]
  | seq a b => if a.nullable then a.firsts ++ b.firsts else a.firsts
  | alt a b => a.firsts ++ b.firsts
  | star a => a.firsts

/-- The classes that the last character of a match can be of. -/
def lasts : Pattern → List (Char → Bool)
  | never => []
  | empty => []
  | one p => [p]
  | seq a b => if b.nullable then a.lasts ++ b.lasts else b.lasts
  | alt a b => a.lasts ++ b.lasts
  | star a => a.lasts

theorem exists_class_of_mem (hs : Matches a s) (hc : c ∈ s) : ∃ p ∈ a.classes, p c := by
  induction hs with
  | empty => cases hc
  | @one p d hd =>
      obtain rfl := List.mem_singleton.mp hc
      exact ⟨p, List.mem_singleton_self p, hd⟩
  | seq _ _ ih₁ ih₂ =>
      rcases List.mem_append.mp hc with hc | hc
      · exact (ih₁ hc).imp fun p hp => ⟨List.mem_append_left _ hp.1, hp.2⟩
      · exact (ih₂ hc).imp fun p hp => ⟨List.mem_append_right _ hp.1, hp.2⟩
  | altLeft _ ih => exact (ih hc).imp fun p hp => ⟨List.mem_append_left _ hp.1, hp.2⟩
  | altRight _ ih => exact (ih hc).imp fun p hp => ⟨List.mem_append_right _ hp.1, hp.2⟩
  | starNil => cases hc
  | starCons _ _ ih₁ ih₂ => exact (List.mem_append.mp hc).elim ih₁ ih₂

theorem mem_firsts_seq {p : Char → Bool} : p ∈ (seq a b).firsts ↔
    p ∈ a.firsts ∨ a.nullable ∧ p ∈ b.firsts := by
  rw [firsts]
  cases a.nullable <;> simp

theorem mem_lasts_seq {p : Char → Bool} : p ∈ (seq a b).lasts ↔
    p ∈ b.lasts ∨ b.nullable ∧ p ∈ a.lasts := by
  rw [lasts]
  cases b.nullable <;> simp [or_comm]

theorem exists_class_of_head (hs : Matches a s) (hc : c ∈ s.head?) : ∃ p ∈ a.firsts, p c := by
  induction hs with
  | empty => cases hc
  | @one p d hd =>
      obtain rfl := Option.some_inj.mp hc
      exact ⟨p, List.mem_singleton_self p, hd⟩
  | @seq a b t u ht _ ih₁ ih₂ =>
      cases t with
      | nil =>
          obtain ⟨p, hp, hpc⟩ := ih₂ hc
          exact ⟨p, mem_firsts_seq.mpr (.inr ⟨nullable_iff.mpr ht, hp⟩), hpc⟩
      | cons d t =>
          obtain ⟨p, hp, hpc⟩ := ih₁ hc
          exact ⟨p, mem_firsts_seq.mpr (.inl hp), hpc⟩
  | altLeft _ ih => exact (ih hc).imp fun p hp => ⟨List.mem_append_left _ hp.1, hp.2⟩
  | altRight _ ih => exact (ih hc).imp fun p hp => ⟨List.mem_append_right _ hp.1, hp.2⟩
  | starNil => cases hc
  | @starCons a t u _ _ ih₁ ih₂ =>
      cases t with
      | nil => exact ih₂ hc
      | cons d t => exact ih₁ hc

theorem exists_class_of_getLast (hs : Matches a s) (hc : c ∈ s.getLast?) :
    ∃ p ∈ a.lasts, p c := by
  induction hs with
  | empty => cases hc
  | @one p d hd =>
      obtain rfl := Option.some_inj.mp hc
      exact ⟨p, List.mem_singleton_self p, hd⟩
  | @seq a b t u _ hu ih₁ ih₂ =>
      rw [List.getLast?_append] at hc
      cases hlast : u.getLast? with
      | none =>
          rw [hlast] at hc
          obtain rfl := List.getLast?_eq_none_iff.mp hlast
          obtain ⟨p, hp, hpc⟩ := ih₁ hc
          exact ⟨p, mem_lasts_seq.mpr (.inr ⟨nullable_iff.mpr hu, hp⟩), hpc⟩
      | some d =>
          rw [hlast] at hc ih₂
          obtain ⟨p, hp, hpc⟩ := ih₂ hc
          exact ⟨p, mem_lasts_seq.mpr (.inl hp), hpc⟩
  | altLeft _ ih => exact (ih hc).imp fun p hp => ⟨List.mem_append_left _ hp.1, hp.2⟩
  | altRight _ ih => exact (ih hc).imp fun p hp => ⟨List.mem_append_right _ hp.1, hp.2⟩
  | starNil => cases hc
  | @starCons a t u _ _ ih₁ ih₂ =>
      rw [List.getLast?_append] at hc
      cases hlast : u.getLast? with
      | none =>
          rw [hlast] at hc
          exact ih₁ hc
      | some d =>
          rw [hlast] at hc ih₂
          exact ih₂ hc

theorem classes_seq'_subset : (seq' a b).classes ⊆ (seq a b).classes := by
  unfold seq'
  split <;> simp [classes]

theorem classes_alt'_subset : (alt' a b).classes ⊆ (alt a b).classes := by
  unfold alt'
  split <;> simp [classes]

theorem classes_derivative_subset : (a.derivative c).classes ⊆ a.classes := by
  induction a with
  | never => exact List.Subset.refl _
  | empty => exact List.Subset.refl _
  | one p =>
      rw [derivative]
      split <;> exact List.nil_subset _
  | seq a b iha ihb =>
      have hfirst : (seq' (a.derivative c) b).classes ⊆ (seq a b).classes :=
        List.Subset.trans classes_seq'_subset
          (List.append_subset.mpr ⟨List.subset_append_of_subset_left _ iha,
            List.subset_append_right _ _⟩)
      rw [derivative]
      split
      · exact List.Subset.trans classes_alt'_subset
          (List.append_subset.mpr ⟨hfirst, List.subset_append_of_subset_right _ ihb⟩)
      · exact hfirst
  | alt a b iha ihb =>
      exact List.Subset.trans classes_alt'_subset
        (List.append_subset.mpr ⟨List.subset_append_of_subset_left _ iha,
          List.subset_append_of_subset_right _ ihb⟩)
  | star a ih =>
      exact List.Subset.trans classes_seq'_subset
        (List.append_subset.mpr ⟨ih, List.Subset.refl _⟩)

/-- A change of characters that no class in a pattern sees is not seen by the pattern. -/
theorem accepts_map {f : Char → Char} (ha : ∀ p ∈ a.classes, ∀ c, p (f c) = p c) :
    a.accepts (s.map f) = a.accepts s := by
  have hderivative {b : Pattern} (hb : ∀ p ∈ b.classes, ∀ c, p (f c) = p c) (c : Char) :
      b.derivative (f c) = b.derivative c := by
    induction b with
    | never => rfl
    | empty => rfl
    | one p => rw [derivative, derivative, hb p (List.mem_singleton_self p)]
    | seq a b iha ihb =>
        rw [classes, List.forall_mem_append] at hb
        rw [derivative, derivative, iha hb.1, ihb hb.2]
    | alt a b iha ihb =>
        rw [classes, List.forall_mem_append] at hb
        rw [derivative, derivative, iha hb.1, ihb hb.2]
    | star a ih => rw [derivative, derivative, ih hb]
  induction s generalizing a with
  | nil => rfl
  | cons c s ih =>
      rw [List.map_cons, accepts, accepts, hderivative ha,
        ih fun p hp => ha p (classes_derivative_subset hp)]

end HybridSearch.Text.Pattern
