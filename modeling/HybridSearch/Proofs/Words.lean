import HybridSearch.Proofs.Text
import Mathlib.Data.List.TakeWhile

/-!
# The words of a text

A text falls into runs of characters of one class. Each run holds something and nothing of another
class, and there are no runs only where no character is of the class. So a text has words unless it
is blank, it can be gone through word by word, and what holds no blank stands in one of them.
-/

namespace HybridSearch.Text

section

variable {p : Char → Bool} {c : Char} {rest : List Char}

@[simp]
theorem runs_nil : runs p [] = [] := rfl

theorem runs_cons_of_neg (hc : p c = false) : runs p (c :: rest) = runs p rest := by
  rw [runs.eq_def p (c :: rest)]
  exact if_neg (Bool.eq_false_iff.mp hc)

/-- A run goes on for as long as its class does. -/
theorem runs_cons_of_pos (hc : p c) :
    runs p (c :: rest) = (c :: rest.takeWhile p) :: runs p (rest.dropWhile p) := by
  induction rest generalizing c with
  | nil => simp [runs, hc]
  | cons next rest ih =>
      rw [runs.eq_def p (c :: next :: rest)]
      simp only [hc, ↓reduceIte]
      by_cases hnext : p next
      · simp only [ih hnext, hnext, ↓reduceIte, List.takeWhile_cons_of_pos,
          List.dropWhile_cons_of_pos]
      · have hstop : runs p (next :: rest) = runs p rest :=
          runs_cons_of_neg (Bool.eq_false_iff.mpr hnext)
        rw [List.takeWhile_cons_of_neg hnext, List.dropWhile_cons_of_neg hnext, hstop]
        cases runs p rest with
        | nil => rfl
        | cons run more => simp only [hnext, Bool.false_eq_true, ↓reduceIte]

theorem runs_append {cs : List Char} (hsome : cs ≠ []) (hall : ∀ c ∈ cs, p c) :
    runs p (cs ++ rest) = (cs ++ rest.takeWhile p) :: runs p (rest.dropWhile p) := by
  obtain ⟨c, cs, rfl⟩ := List.exists_cons_of_ne_nil hsome
  have hlater : ∀ d ∈ cs, p d := fun d hd => hall d (List.mem_cons_of_mem c hd)
  rw [List.cons_append, runs_cons_of_pos (hall c List.mem_cons_self),
    List.takeWhile_append_of_pos hlater, List.dropWhile_append_of_pos hlater]
  rfl

/-- A text is gone through run by run: what is not of the class is passed over one by one. -/
theorem runInduction {P : List Char → Prop} (nil : P [])
    (other : ∀ c rest, p c = false → P rest → P (c :: rest))
    (run : ∀ c rest, p c → P (rest.dropWhile p) → P (c :: rest)) (cs : List Char) : P cs := by
  induction hlength : cs.length using Nat.strong_induction_on generalizing cs with
  | h n ih =>
      subst hlength
      cases cs with
      | nil => exact nil
      | cons c rest =>
          cases hc : p c with
          | true =>
              have hshorter := (List.dropWhile_sublist p (l := rest)).length_le
              exact run c rest hc (ih _ (Nat.lt_succ_of_le hshorter) _ rfl)
          | false => exact other c rest hc (ih _ (Nat.lt_succ_self _) rest rfl)

theorem mem_runs {run cs : List Char} (hrun : run ∈ runs p cs) : run ≠ [] ∧ ∀ c ∈ run, p c := by
  induction cs using runInduction (p := p) with
  | nil => cases hrun
  | other c rest hc ih =>
      rw [runs_cons_of_neg hc] at hrun
      exact ih hrun
  | run c rest hc ih =>
      rw [runs_cons_of_pos hc, List.mem_cons] at hrun
      rcases hrun with rfl | hlater
      · refine ⟨List.cons_ne_nil _ _, List.forall_mem_cons.mpr ⟨hc, fun d hd => ?_⟩⟩
        exact List.mem_takeWhile_imp hd
      · exact ih hlater

/-- A run ends where a character of another class follows. -/
theorem runs_append_of_head? {run after : List Char} (hsome : run ≠ []) (hall : ∀ c ∈ run, p c)
    (hafter : ∀ c ∈ after.head?, p c = false) : runs p (run ++ after) = run :: runs p after := by
  rw [runs_append hsome hall]
  cases after with
  | nil => simp
  | cons d after =>
      have hd : ¬ p d := Bool.eq_false_iff.mp (hafter d rfl)
      rw [List.takeWhile_cons_of_neg hd, List.dropWhile_cons_of_neg hd, List.append_nil]

theorem takeWhile_append_of_stop {a b : List Char} (hb : ∀ c ∈ b.head?, p c = false) :
    (a ++ b).takeWhile p = a.takeWhile p := by
  induction a with
  | nil =>
      cases b with
      | nil => rfl
      | cons c b => exact List.takeWhile_cons_of_neg (Bool.eq_false_iff.mp (hb c rfl))
  | cons c a ih => cases hc : p c <;> simp [hc, ih]

theorem dropWhile_append_of_stop {a b : List Char} (hb : ∀ c ∈ b.head?, p c = false) :
    (a ++ b).dropWhile p = a.dropWhile p ++ b := by
  have hsplit : (a ++ b).takeWhile p ++ (a ++ b).dropWhile p
      = a.takeWhile p ++ (a.dropWhile p ++ b) := by
    rw [List.takeWhile_append_dropWhile, ← List.append_assoc, List.takeWhile_append_dropWhile]
  rw [takeWhile_append_of_stop hb] at hsplit
  exact List.append_cancel_left hsplit

/-- No run goes on where a character of another class follows. -/
theorem runs_append_of_stop {a b : List Char} (hb : ∀ c ∈ b.head?, p c = false) :
    runs p (a ++ b) = runs p a ++ runs p b := by
  induction a using runInduction (p := p) with
  | nil => rfl
  | other c rest hc ih => rw [List.cons_append, runs_cons_of_neg hc, runs_cons_of_neg hc, ih]
  | run c rest hc ih =>
      rw [List.cons_append, runs_cons_of_pos hc, runs_cons_of_pos hc, takeWhile_append_of_stop hb,
        dropWhile_append_of_stop hb, ih, List.cons_append]

theorem not_of_mem_head?_dropWhile {cs : List Char} (hc : c ∈ (cs.dropWhile p).head?) :
    p c = false := by
  have hstop := List.head?_dropWhile_not p cs
  rw [Option.mem_def.mp hc] at hstop
  exact hstop

/-- No run goes on over a character of another class. -/
theorem runs_append_of_getLast? {before : List Char}
    (hbefore : ∀ c ∈ before.getLast?, p c = false) :
    runs p (before ++ rest) = runs p before ++ runs p rest := by
  induction before using runInduction (p := p) with
  | nil => rfl
  | other c before hc ih =>
      rw [List.cons_append, runs_cons_of_neg hc, runs_cons_of_neg hc,
        ih fun d hd => hbefore d (List.mem_getLast?_cons hd)]
  | run c before hc ih =>
      have hsplit : c :: before = (c :: before.takeWhile p) ++ before.dropWhile p := by
        rw [List.cons_append, List.takeWhile_append_dropWhile]
      have hrun : ∀ d ∈ c :: before.takeWhile p, p d :=
        List.forall_mem_cons.mpr ⟨hc, fun d hd => List.mem_takeWhile_imp hd⟩
      rw [hsplit] at hbefore
      cases hstop : before.dropWhile p with
      | nil =>
          -- The last character belongs to the run.
          rw [hstop, List.append_nil] at hbefore
          have hlast := List.getLast?_eq_some_getLast (List.cons_ne_nil c (before.takeWhile p))
          have hmem := hrun _ (List.mem_of_getLast? hlast)
          rw [hbefore _ hlast] at hmem
          cases hmem
      | cons d after =>
          have hd : p d = false := not_of_mem_head?_dropWhile (by rw [hstop]; rfl)
          rw [hstop] at hsplit hbefore ih
          have hlater : ∀ e ∈ (d :: after).getLast?, p e = false := fun e he =>
            hbefore e (List.mem_getLast?_append_of_mem_getLast? he)
          rw [hsplit, List.append_assoc,
            runs_append_of_head? (List.cons_ne_nil _ _) hrun (by simpa using hd),
            runs_append_of_head? (List.cons_ne_nil _ _) hrun (by simpa using hd), ih hlater,
            List.cons_append]

/-- The runs of a text are its pieces of one class that stand between characters of another. -/
theorem mem_runs_iff {run cs : List Char} : run ∈ runs p cs ↔
    ∃ before after, cs = before ++ run ++ after ∧ run ≠ [] ∧ (∀ c ∈ run, p c) ∧
      (∀ c ∈ before.getLast?, p c = false) ∧ ∀ c ∈ after.head?, p c = false := by
  constructor
  · intro hrun
    obtain ⟨hsome, hall⟩ := mem_runs hrun
    induction cs using runInduction (p := p) with
    | nil => cases hrun
    | other c rest hc ih =>
        rw [runs_cons_of_neg hc] at hrun
        obtain ⟨before, after, rfl, -, -, hbefore, hafter⟩ := ih hrun
        refine ⟨c :: before, after, rfl, hsome, hall, ?_, hafter⟩
        cases before with
        | nil => simpa using hc
        | cons d before => exact fun e he => hbefore e (by simpa using he)
    | run c rest hc ih =>
        rw [runs_cons_of_pos hc, List.mem_cons] at hrun
        rcases hrun with rfl | hlater
        · refine ⟨[], rest.dropWhile p, ?_, hsome, hall, by simp,
            fun d hd => not_of_mem_head?_dropWhile hd⟩
          rw [List.nil_append, List.cons_append, List.takeWhile_append_dropWhile]
        · obtain ⟨before, after, hsplit, -, -, hbefore, hafter⟩ := ih hlater
          refine ⟨c :: rest.takeWhile p ++ before, after, ?_, hsome, hall, ?_, hafter⟩
          · rw [List.append_assoc, List.append_assoc, ← List.append_assoc before, ← hsplit,
              List.cons_append, List.takeWhile_append_dropWhile]
          · cases before with
            | nil =>
                -- What is left of the text begins with no run.
                obtain ⟨d, run, rfl⟩ := List.exists_cons_of_ne_nil hsome
                have hd : p d = false := not_of_mem_head?_dropWhile (by rw [hsplit]; rfl)
                rw [hall d List.mem_cons_self] at hd
                cases hd
            | cons d before =>
                intro e he
                rw [List.getLast?_append_of_ne_nil _ (List.cons_ne_nil d before)] at he
                exact hbefore e he
  · rintro ⟨before, after, rfl, hsome, hall, hbefore, hafter⟩
    rw [List.append_assoc, runs_append_of_getLast? hbefore,
      runs_append_of_head? hsome hall hafter]
    exact List.mem_append_right _ List.mem_cons_self

theorem runs_eq_nil_iff {cs : List Char} : runs p cs = [] ↔ ∀ c ∈ cs, p c = false := by
  induction cs with
  | nil => simp
  | cons c rest ih =>
      by_cases hc : p c
      · simp [runs_cons_of_pos hc, hc]
      · have hc' : p c = false := Bool.eq_false_iff.mpr hc
        rw [runs_cons_of_neg hc', ih]
        simp [hc']

end

/-! ### Word by word -/

section

variable {c : Char} {a b rest w : List Char}

/-- Whether no word stands at the very start of a text. -/
def BeginsBlank (cs : List Char) : Prop := ∀ c ∈ cs.head?, isSpace c

@[simp]
theorem beginsBlank_nil : BeginsBlank [] := by simp [BeginsBlank]

@[simp]
theorem beginsBlank_cons : BeginsBlank (c :: rest) ↔ isSpace c := by simp [BeginsBlank]

theorem BeginsBlank.append (ha : BeginsBlank a) (hb : BeginsBlank b) : BeginsBlank (a ++ b) := by
  cases a with
  | nil => exact hb
  | cons c a => exact beginsBlank_cons.mpr (beginsBlank_cons.mp ha)

theorem wordChars_nil : wordChars [] = [] := rfl

theorem wordChars_blank (hc : isSpace c) : wordChars (c :: rest) = wordChars rest :=
  runs_cons_of_neg (by rw [hc]; rfl)

theorem wordChars_word (hsome : w ≠ []) (hword : ∀ c ∈ w, isSpace c = false)
    (hrest : BeginsBlank rest) : wordChars (w ++ rest) = w :: wordChars rest := by
  refine runs_append_of_head? hsome (fun c hc => ?_) fun c hc => ?_
  · rw [hword c hc]
    rfl
  · simpa using hrest c hc

theorem beginsBlank_dropWhile (cs : List Char) : BeginsBlank (cs.dropWhile (!isSpace ·)) := by
  intro c hc
  simpa using not_of_mem_head?_dropWhile hc

/-- A text is empty, or begins with a blank, or begins with a word that goes up to a blank or to its
end. -/
theorem wordInduction {P : List Char → Prop} (nil : P [])
    (blank : ∀ c rest, isSpace c → P rest → P (c :: rest))
    (word : ∀ w rest, w ≠ [] → (∀ c ∈ w, isSpace c = false) → BeginsBlank rest → P rest →
      P (w ++ rest)) (cs : List Char) : P cs := by
  induction cs using runInduction (p := (!isSpace ·)) with
  | nil => exact nil
  | other c rest hc ih => exact blank c rest (by simpa using hc) ih
  | run c rest hc ih =>
      have hsplit : c :: rest
          = (c :: rest.takeWhile (!isSpace ·)) ++ rest.dropWhile (!isSpace ·) := by
        rw [List.cons_append, List.takeWhile_append_dropWhile]
      have hword : ∀ d ∈ c :: rest.takeWhile (!isSpace ·), isSpace d = false := by
        refine List.forall_mem_cons.mpr ⟨by simpa using hc, fun d hd => ?_⟩
        simpa using List.mem_takeWhile_imp hd
      rw [hsplit]
      exact word _ _ (List.cons_ne_nil _ _) hword (beginsBlank_dropWhile rest) ih

theorem wordChars_append (hb : BeginsBlank b) :
    wordChars (a ++ b) = wordChars a ++ wordChars b :=
  runs_append_of_stop fun c hc => by simpa using hb c hc

theorem wordChars_of_blanks (ha : ∀ c ∈ a, isSpace c) : wordChars a = [] :=
  runs_eq_nil_iff.mpr fun c hc => by rw [ha c hc]; rfl

theorem beginsBlank_of_blanks (ha : ∀ c ∈ a, isSpace c) : BeginsBlank a := by
  cases a with
  | nil => exact beginsBlank_nil
  | cons c a => exact beginsBlank_cons.mpr (ha c List.mem_cons_self)

theorem wordChars_blanks_append (ha : ∀ c ∈ a, isSpace c) : wordChars (a ++ b) = wordChars b := by
  induction a with
  | nil => rfl
  | cons c a ih =>
      rw [List.cons_append, wordChars_blank (ha c List.mem_cons_self),
        ih fun d hd => ha d (List.mem_cons_of_mem c hd)]

theorem wordChars_trimChars (cs : List Char) : wordChars (trimChars cs) = wordChars cs := by
  obtain ⟨before, after, hsplit, hbefore, hafter⟩ := exists_trimChars cs
  conv_rhs => rw [hsplit]
  rw [wordChars_blanks_append hbefore, wordChars_append (beginsBlank_of_blanks hafter),
    wordChars_of_blanks hafter, List.append_nil]

/-- A text that is a single word with nothing around it. -/
structure IsSolid (cs : List Char) : Prop where
  some : cs ≠ []
  solid : ∀ c ∈ cs, isSpace c = false

theorem isSolid_of_mem_wordChars (hw : w ∈ wordChars a) : IsSolid w where
  some := (mem_runs hw).1
  solid := fun c hc => by simpa using (mem_runs hw).2 c hc

theorem IsSolid.wordChars_append (hw : IsSolid w) (hrest : BeginsBlank rest) :
    wordChars (w ++ rest) = w :: wordChars rest := wordChars_word hw.some hw.solid hrest

/-- A text of one word is that word between blanks. -/
theorem trimChars_of_wordChars_singleton (hw : wordChars a = [w]) : trimChars a = w := by
  induction a using wordInduction with
  | nil => cases hw
  | blank c rest hc ih =>
      rw [wordChars_blank hc] at hw
      rw [trimChars, List.dropWhile_cons_of_pos hc]
      exact ih hw
  | word w' rest hsome hword hrest _ =>
      rw [wordChars_word hsome hword hrest] at hw
      obtain ⟨rfl, hnone⟩ := List.cons.inj hw
      have hblank : trimEndWhile isSpace rest = [] := by
        refine List.rdropWhile_eq_nil_iff.mpr fun c hc => ?_
        simpa using runs_eq_nil_iff.mp hnone c hc
      have hstart : (w' ++ rest).dropWhile isSpace = w' ++ rest := by
        obtain ⟨c, w', rfl⟩ := List.exists_cons_of_ne_nil hsome
        exact List.dropWhile_cons_of_neg (by simp [hword c List.mem_cons_self])
      rw [trimChars, hstart, trimEndWhile_append, if_pos hblank]
      exact trimEndWhile_eq_self fun c hc => hword c (List.mem_of_getLast? hc)

/-- What holds no blank does not reach over one. -/
theorem infix_append_iff {t : List Char} (ht : ∀ c ∈ t, isSpace c = false) (hb : BeginsBlank b) :
    t <:+: a ++ b ↔ t <:+: a ∨ t <:+: b := by
  rw [List.infix_append_iff]
  constructor
  · rintro (ha | hb | ⟨t₁, t₂, rfl, hsuffix, hprefix⟩)
    · exact .inl ha
    · exact .inr hb
    · cases t₂ with
      | nil => exact .inl (by simpa using hsuffix.isInfix)
      | cons c t₂ =>
          obtain ⟨more, rfl⟩ := hprefix
          have hc : isSpace c := beginsBlank_cons.mp hb
          simp [ht c (by simp)] at hc
  · rintro (ha | hb)
    · exact .inl ha
    · exact .inr (.inl hb)

theorem infix_iff_exists_word {t cs : List Char} (hsome : t ≠ [])
    (ht : ∀ c ∈ t, isSpace c = false) :
    t <:+: cs ↔ ∃ w ∈ wordChars cs, t <:+: w := by
  induction cs using wordInduction with
  | nil => simp [wordChars_nil, hsome]
  | blank c rest hc ih =>
      have hstart : ¬ t <+: c :: rest := by
        rw [List.prefix_cons_iff, not_or]
        refine ⟨hsome, ?_⟩
        rintro ⟨t', rfl, -⟩
        simp [ht c List.mem_cons_self] at hc
      rw [wordChars_blank hc, ← ih, List.infix_cons_iff]
      simp [hstart]
  | word w rest hw hword hrest ih =>
      rw [infix_append_iff ht hrest, ih, wordChars_word hw hword hrest]
      simp

/-- Two words take more room than their letters, since a blank stands between them. -/
theorem length_lt_of_wordChars {w₁ w₂ : List Char} {ws : List (List Char)}
    (hw : wordChars a = w₁ :: w₂ :: ws) : w₁.length + w₂.length < a.length := by
  induction a using wordInduction with
  | nil => cases hw
  | blank c rest hc ih =>
      rw [wordChars_blank hc] at hw
      exact (ih hw).trans (Nat.lt_succ_self _)
  | word w rest hsome hword hrest _ =>
      rw [wordChars_word hsome hword hrest] at hw
      obtain ⟨rfl, hlater⟩ := List.cons.inj hw
      cases rest with
      | nil => cases hlater
      | cons c rest =>
          rw [wordChars_blank (beginsBlank_cons.mp hrest)] at hlater
          have hmem : w₂ ∈ wordChars rest := hlater ▸ List.mem_cons_self
          obtain ⟨hsome₂, hword₂⟩ := isSolid_of_mem_wordChars hmem
          have hinfix : w₂ <:+: rest :=
            (infix_iff_exists_word hsome₂ hword₂).mpr ⟨w₂, hmem, List.infix_refl w₂⟩
          have hlength := hinfix.length_le
          rw [List.length_append, List.length_cons]
          omega

end

variable {s w : String}

theorem toList_words (s : String) : (words s).map String.toList = wordChars s.toList := by
  rw [words, List.map_map]
  exact (List.map_congr_left fun _ _ => String.toList_ofList).trans (List.map_id _)

theorem words_eq_nil_iff : words s = [] ↔ isBlank s := by
  rw [words, List.map_eq_nil_iff, wordChars, runs_eq_nil_iff, isBlank, List.all_eq_true]
  simp

theorem isSolid_of_mem_words (hw : w ∈ words s) : IsSolid w.toList := by
  obtain ⟨run, hrun, rfl⟩ := List.mem_map.mp hw
  rw [String.toList_ofList]
  exact isSolid_of_mem_wordChars hrun

theorem not_isBlank_of_mem_words (hw : w ∈ words s) : ¬ isBlank w := by
  obtain ⟨run, hrun, rfl⟩ := List.mem_map.mp hw
  obtain ⟨hsome, hall⟩ := mem_runs hrun
  obtain ⟨c, hc⟩ := List.exists_mem_of_ne_nil run hsome
  intro hblank
  rw [isBlank, String.toList_ofList, List.all_eq_true] at hblank
  have hspace : isSpace c := hblank c hc
  simpa [hspace] using hall c hc

theorem intercalate_cons_cases (first : String) (texts : List String) :
    (" ".intercalate (first :: texts)).toList = first.toList ∨
      ∃ more, (" ".intercalate (first :: texts)).toList = first.toList ++ ' ' :: more := by
  cases texts with
  | nil => exact .inl (by simp)
  | cons second texts =>
      right
      rw [String.intercalate_cons_cons, String.toList_append, String.toList_append,
        List.append_assoc]
      exact ⟨_, rfl⟩

/-- A text that is joined to others is still there. -/
theorem isBlank_of_isBlank_intercalate {sep : String} {texts : List String}
    (hblank : isBlank (sep.intercalate texts)) (hs : s ∈ texts) : isBlank s := by
  have hchars : ∀ c ∈ s.toList, c ∈ (sep.intercalate texts).toList := by
    clear hblank
    induction texts with
    | nil => cases hs
    | cons first texts ih =>
        cases texts with
        | nil =>
            rw [List.mem_singleton.mp hs]
            simp
        | cons second texts =>
            intro c hc
            rw [String.intercalate_cons_cons, String.toList_append, List.mem_append]
            rcases List.mem_cons.mp hs with rfl | hs
            · left
              simp [hc]
            · exact .inr (ih hs c hc)
  rw [isBlank, List.all_eq_true] at hblank ⊢
  exact fun c hc => hblank c (hchars c hc)

end HybridSearch.Text
