import HybridSearch.Proofs.Classes
import HybridSearch.Proofs.Words

/-!
# Lowercase word by word

The one letter whose lowercase depends on its surroundings looks no further than the word it stands
in, since a blank is neither cased nor looked past. So a text is put into lowercase by putting its
words into lowercase, and its blanks stay.
-/

namespace HybridSearch.Text

variable {c : Char} {before u a b cs rest w : List Char}

theorem meetsCased_of_beginsBlank (hb : BeginsBlank b) : meetsCased b = false := by
  cases b with
  | nil => rfl
  | cons c b =>
      have hblank := isBlankChar_of_isSpace (beginsBlank_cons.mp hb)
      simp [meetsCased, hblank.caseIgnorable, hblank.cased]

theorem meetsCased_append (hb : BeginsBlank b) : meetsCased (u ++ b) = meetsCased u := by
  induction u with
  | nil => rw [List.nil_append, meetsCased_of_beginsBlank hb]; rfl
  | cons c u ih =>
      cases hc : isCaseIgnorable c with
      | true => simpa [meetsCased, hc] using ih
      | false => simp [meetsCased, hc]

theorem lowerAfter_append_before (hb : BeginsBlank b) :
    lowerAfter (u ++ b) cs = lowerAfter u cs := by
  induction cs generalizing u with
  | nil => rfl
  | cons c cs ih =>
      simp only [lowerAfter, meetsCased_append hb]
      rw [← List.cons_append, ih]

theorem lowerAfter_blank (hc : isSpace c) :
    lowerAfter before (c :: rest) = c :: lowerChars rest := by
  have hsigma : c ≠ 'Σ' := by
    rintro rfl
    exact absurd hc (by decide)
  have hbefore : lowerAfter (c :: before) rest = lowerChars rest := by
    rw [← List.nil_append (c :: before), lowerAfter_append_before (beginsBlank_cons.mpr hc)]
    rfl
  rw [lowerAfter, if_neg hsigma, (isBlankChar_of_isSpace hc).lower, hbefore]
  rfl

theorem lowerChars_blank (hc : isSpace c) : lowerChars (c :: rest) = c :: lowerChars rest :=
  lowerAfter_blank hc

theorem lowerAfter_append (hb : BeginsBlank b) :
    lowerAfter u (a ++ b) = lowerAfter u a ++ lowerChars b := by
  induction a generalizing u with
  | nil =>
      cases b with
      | nil => rfl
      | cons c b =>
          have hc : isSpace c := beginsBlank_cons.mp hb
          rw [List.nil_append, lowerAfter_blank hc, lowerChars_blank hc]
          rfl
  | cons c a ih =>
      simp only [List.cons_append, lowerAfter, meetsCased_append hb, ih, List.append_assoc]

theorem lowerChars_append (hb : BeginsBlank b) :
    lowerChars (a ++ b) = lowerChars a ++ lowerChars b := lowerAfter_append hb

/-- A letter becomes its lowercase, wherever it stands, but for the sigma at the end of a word. -/
theorem lowerAfter_cons (u : List Char) (c : Char) (cs : List Char) :
    lowerAfter u (c :: cs) = lowerChar c ++ lowerAfter (c :: u) cs ∨
      c = 'Σ' ∧ lowerAfter u (c :: cs) = 'ς' :: lowerAfter (c :: u) cs := by
  rw [lowerAfter]
  split_ifs with hsigma hfinal
  · exact .inr ⟨hsigma, rfl⟩
  · subst hsigma
    have himage : lowerChar 'Σ' = ['σ'] := by decide +kernel
    exact .inl (by rw [himage])
  · exact .inl rfl

theorem not_isSpace_of_mem_lowerAfter (hcs : ∀ c ∈ cs, isSpace c = false) {d : Char}
    (hd : d ∈ lowerAfter u cs) : isSpace d = false := by
  induction cs generalizing u with
  | nil => cases hd
  | cons c cs ih =>
      have hlater (hd : d ∈ lowerAfter (c :: u) cs) : isSpace d = false :=
        ih (fun e he => hcs e (List.mem_cons_of_mem c he)) hd
      rcases lowerAfter_cons u c cs with hstep | ⟨-, hstep⟩
      · rw [hstep, List.mem_append] at hd
        rcases hd with himage | hd
        · exact not_isSpace_of_mem_lowerChar (hcs c List.mem_cons_self) himage
        · exact hlater hd
      · rw [hstep, List.mem_cons] at hd
        rcases hd with rfl | hd
        · decide
        · exact hlater hd

theorem lowerAfter_ne_nil (hcs : cs ≠ []) : lowerAfter u cs ≠ [] := by
  obtain ⟨c, cs, rfl⟩ := List.exists_cons_of_ne_nil hcs
  rcases lowerAfter_cons u c cs with hstep | ⟨-, hstep⟩
  · rw [hstep]
    exact List.append_ne_nil_of_left_ne_nil (lowerChar_ne_nil c) _
  · rw [hstep]
    exact List.cons_ne_nil _ _

theorem BeginsBlank.lowerChars (hb : BeginsBlank b) : BeginsBlank (lowerChars b) := by
  cases b with
  | nil => exact hb
  | cons c b =>
      have hc : isSpace c := beginsBlank_cons.mp hb
      rw [lowerChars_blank hc]
      exact beginsBlank_cons.mpr hc

theorem IsSolid.lowerChars (hw : IsSolid w) : IsSolid (lowerChars w) :=
  ⟨lowerAfter_ne_nil hw.some, fun _ hc => not_isSpace_of_mem_lowerAfter hw.solid hc⟩

theorem wordChars_lowerChars (cs : List Char) :
    wordChars (lowerChars cs) = (wordChars cs).map lowerChars := by
  induction cs using wordInduction with
  | nil => rfl
  | blank c rest hc ih =>
      rw [lowerChars_blank hc, wordChars_blank hc, ih, wordChars_blank hc]
  | word w rest hw hword hrest ih =>
      have hlower : IsSolid (lowerChars w) := IsSolid.lowerChars ⟨hw, hword⟩
      rw [lowerChars_append hrest, hlower.wordChars_append hrest.lowerChars, ih,
        wordChars_word hw hword hrest, List.map_cons]

/-- Lowercase leaves blanks as they are, so it does not make texts with the same words equal. -/
theorem eq_of_lowerChars_eq (hwords : wordChars a = wordChars b)
    (hlower : lowerChars a = lowerChars b) : a = b := by
  -- One text cannot begin with a blank and the other one with a word.
  have hstart {d : Char} {rest rest' w : List Char} (hd : isSpace d) (hw : IsSolid w)
      (hrest' : BeginsBlank rest') : d :: rest ≠ Text.lowerChars (w ++ rest') := by
    intro heq
    obtain ⟨e, es, himage⟩ := List.exists_cons_of_ne_nil hw.lowerChars.some
    rw [lowerChars_append hrest', himage] at heq
    have he := hw.lowerChars.solid e (by simp [himage])
    rw [← (List.cons.inj heq).1, hd] at he
    cases he
  induction a using wordInduction generalizing b with
  | nil =>
      cases b with
      | nil => rfl
      | cons d b => exact absurd hlower.symm (lowerAfter_ne_nil (List.cons_ne_nil d b))
  | blank c rest hc ih =>
      rw [lowerChars_blank hc] at hlower
      cases b using wordInduction with
      | nil => cases hlower
      | blank d rest' hd _ =>
          rw [lowerChars_blank hd] at hlower
          obtain ⟨rfl, hlater⟩ := List.cons.inj hlower
          rw [wordChars_blank hc, wordChars_blank hd] at hwords
          rw [ih hwords hlater]
      | word w rest' hw hword hrest' _ => exact absurd hlower (hstart hc ⟨hw, hword⟩ hrest')
  | word w rest hw hword hrest ih =>
      cases b using wordInduction with
      | nil => exact absurd hlower (lowerAfter_ne_nil (List.append_ne_nil_of_left_ne_nil hw rest))
      | blank d rest' hd _ =>
          rw [lowerChars_blank hd] at hlower
          exact absurd hlower.symm (hstart hd ⟨hw, hword⟩ hrest)
      | word w' rest' hw' hword' hrest' _ =>
          rw [wordChars_word hw hword hrest, wordChars_word hw' hword' hrest'] at hwords
          obtain ⟨rfl, hlater⟩ := List.cons.inj hwords
          rw [lowerChars_append hrest, lowerChars_append hrest'] at hlower
          rw [ih hlater (List.append_cancel_left hlower)]

theorem lowerAfter_eq_self (hcs : ∀ c ∈ cs, lowerChar c = [c]) : lowerAfter u cs = cs := by
  induction cs generalizing u with
  | nil => rfl
  | cons c cs ih =>
      rw [List.forall_mem_cons] at hcs
      rcases lowerAfter_cons u c cs with hstep | ⟨rfl, -⟩
      · rw [hstep, hcs.1, ih hcs.2, List.singleton_append]
      · exact absurd hcs.1 (by decide +kernel)

theorem lowerChar_of_mem_lowerAfter {d : Char} (hd : d ∈ lowerAfter u cs) : lowerChar d = [d] := by
  induction cs generalizing u with
  | nil => cases hd
  | cons c cs ih =>
      rcases lowerAfter_cons u c cs with hstep | ⟨-, hstep⟩
      · rw [hstep, List.mem_append] at hd
        exact hd.elim lowerChar_of_mem_lowerChar ih
      · rw [hstep, List.mem_cons] at hd
        rcases hd with rfl | hd
        · decide +kernel
        · exact ih hd

@[simp]
theorem lowercase_lowercase (s : String) : lowercase (lowercase s) = lowercase s := by
  have hfixed : lowerChars (lowerChars s.toList) = lowerChars s.toList :=
    lowerAfter_eq_self fun _ hd => lowerChar_of_mem_lowerAfter hd
  rw [lowercase, lowercase, String.toList_ofList, hfixed]

/-! ### Lowercase character by character -/

section

variable {d : Char} {q : Char → Bool}

/-- The sigma that ends a word and the other one as one letter. -/
def mergeSigma (c : Char) : Char := if c = 'ς' then 'σ' else c

/-- The lowercase of a character, whatever stands around it. -/
def foldChar (c : Char) : List Char := (lowerChar c).map mergeSigma

theorem map_mergeSigma_lowerAfter (u cs : List Char) :
    (lowerAfter u cs).map mergeSigma = cs.flatMap foldChar := by
  induction cs generalizing u with
  | nil => rfl
  | cons c cs ih =>
      rw [List.flatMap_cons]
      rcases lowerAfter_cons u c cs with hstep | ⟨rfl, hstep⟩
      · rw [hstep, List.map_append, ih]
        rfl
      · have hsigma : foldChar 'Σ' = ['σ'] := by decide +kernel
        rw [hstep, List.map_cons, ih, hsigma]
        rfl

theorem isWord_mergeSigma (c : Char) : isWord (mergeSigma c) = isWord c := by
  rw [mergeSigma]
  split_ifs with hc
  · subst hc
    decide +kernel
  · rfl

/-- A character is its own lowercase, or it is of a word and so is its lowercase. -/
theorem foldChar_cases (c : Char) : foldChar c = [c] ∨
    isWord c ∧ foldChar c ≠ [] ∧ ∀ d ∈ foldChar c, isWord d := by
  have hword (hc : isWord c) : isWord c ∧ foldChar c ≠ [] ∧ ∀ d ∈ foldChar c, isWord d := by
    refine ⟨hc, by simpa [foldChar] using lowerChar_ne_nil c, fun d hd => ?_⟩
    obtain ⟨e, he, rfl⟩ := List.mem_map.mp hd
    rw [isWord_mergeSigma]
    rcases lowerChar_cases c with hsame | hcapital
    · rw [hsame, List.mem_singleton] at he
      rwa [he]
    · exact hcapital.image_word e he
  rcases lowerChar_cases c with hsame | hcapital
  · by_cases hsigma : c = 'ς'
    · exact .inr (hword (by rw [hsigma]; decide +kernel))
    · left
      simp [foldChar, hsame, mergeSigma, hsigma]
  · exact .inr (hword hcapital.word)

/-- A class that holds all characters of words or none of them does not tell a character from its
lowercase. -/
theorem eq_of_mem_foldChar {b : Bool} (hq : ∀ c, isWord c → q c = b)
    (hd : d ∈ foldChar c) : q d = q c := by
  rcases foldChar_cases c with hsame | ⟨hword, -, hwords⟩
  · rw [hsame, List.mem_singleton] at hd
    rw [hd]
  · rw [hq c hword, hq d (hwords d hd)]

/-! Pieces of a text that are cut off by such a class are put into lowercase by themselves. -/

variable {f : Char → List Char}

theorem takeWhile_flatMap (hf : ∀ c, f c ≠ []) (hq : ∀ c, ∀ d ∈ f c, q d = q c) (cs : List Char) :
    (cs.flatMap f).takeWhile q = (cs.takeWhile q).flatMap f := by
  induction cs with
  | nil => rfl
  | cons c cs ih =>
      rw [List.flatMap_cons]
      cases hc : q c with
      | true =>
          have hall : ∀ d ∈ f c, q d = true := fun d hd => (hq c d hd).trans hc
          rw [List.takeWhile_append_of_pos hall, ih, List.takeWhile_cons_of_pos hc,
            List.flatMap_cons]
      | false =>
          obtain ⟨d, ds, himage⟩ := List.exists_cons_of_ne_nil (hf c)
          have hd : q d = false := (hq c d (by simp [himage])).trans hc
          simp [himage, hd, hc]

theorem dropWhile_flatMap (hf : ∀ c, f c ≠ []) (hq : ∀ c, ∀ d ∈ f c, q d = q c) (cs : List Char) :
    (cs.flatMap f).dropWhile q = (cs.dropWhile q).flatMap f := by
  have hsplit := List.takeWhile_append_dropWhile (p := q) (l := cs.flatMap f)
  rw [takeWhile_flatMap hf hq] at hsplit
  have hparts : cs.flatMap f = (cs.takeWhile q).flatMap f ++ (cs.dropWhile q).flatMap f := by
    rw [← List.flatMap_append, List.takeWhile_append_dropWhile]
  exact List.append_cancel_left (hsplit.trans hparts)

theorem trimEndWhile_flatMap (hf : ∀ c, f c ≠ []) (hq : ∀ c, ∀ d ∈ f c, q d = q c)
    (cs : List Char) : trimEndWhile q (cs.flatMap f) = (trimEndWhile q cs).flatMap f := by
  have hreversed := dropWhile_flatMap (f := List.reverse ∘ f) (q := q)
    (fun c => by simpa using hf c) (fun c d hd => hq c d (by simpa using hd)) cs.reverse
  rw [trimEndWhile, List.reverse_flatMap, hreversed, List.reverse_flatMap, trimEndWhile]
  simp [Function.comp_def]

theorem foldChar_ne_nil (c : Char) : foldChar c ≠ [] := by
  simpa [foldChar] using lowerChar_ne_nil c

end

end HybridSearch.Text
