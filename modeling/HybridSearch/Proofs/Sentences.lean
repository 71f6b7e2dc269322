import HybridSearch.Proofs.Lowercase
import HybridSearch.Proofs.Text
import HybridSearch.Snippet

/-!
# Sentences that mention a term

A text is cut only before a blank, so no word is cut, and what is trimmed off a piece is blank. So
the sentences of a text hold its words one after another. Lowercase goes word by word as well, and a
term without a blank stands inside a word; so it is mentioned in a text exactly when it is mentioned
in one of the sentences.
-/

namespace HybridSearch.Snippet

open Text

variable {c : Char} {cs rest text : List Char}

/-! ### Pieces -/

theorem flatten_attach (c : Char) (ps : List (List Char)) :
    (attach c ps).flatten = c :: ps.flatten := by
  cases ps <;> rfl

theorem flatten_pieces (cs : List Char) : (pieces cs).flatten = cs := by
  induction cs with
  | nil => rfl
  | cons c rest ih =>
      rw [pieces]
      split_ifs
      · rw [List.flatten_cons, ih, List.singleton_append]
      · rw [flatten_attach, ih]

theorem beginsBlank_of_endsSentence (h : endsSentence c rest) : BeginsBlank rest := by
  cases rest with
  | nil => exact beginsBlank_nil
  | cons next rest => exact beginsBlank_cons.mpr ((Bool.and_eq_true _ _).mp h).2

/-- Where each piece after the first was cut off there was a blank. -/
theorem beginsBlank_of_mem_pieces {first : List Char} {later : List (List Char)}
    (hpieces : pieces cs = first :: later) : (BeginsBlank cs → BeginsBlank first) ∧
      ∀ p ∈ later, BeginsBlank p := by
  induction cs generalizing first later with
  | nil =>
      obtain ⟨rfl, rfl⟩ := List.cons.inj hpieces
      simp
  | cons c rest ih =>
      rw [pieces] at hpieces
      split_ifs at hpieces with hends
      · obtain ⟨rfl, rfl⟩ := List.cons.inj hpieces
        refine ⟨fun hc => beginsBlank_cons.mpr (beginsBlank_cons.mp hc), ?_⟩
        intro p hp
        cases hrest : pieces rest with
        | nil => simp [hrest] at hp
        | cons next later =>
            obtain ⟨hnext, hlater⟩ := ih hrest
            rw [hrest] at hp
            rcases List.mem_cons.mp hp with rfl | hp
            · exact hnext (beginsBlank_of_endsSentence hends)
            · exact hlater p hp
      · cases hrest : pieces rest with
        | nil =>
            rw [hrest] at hpieces
            obtain ⟨rfl, rfl⟩ := List.cons.inj hpieces
            simp
        | cons next later' =>
            rw [hrest] at hpieces
            obtain ⟨rfl, rfl⟩ := List.cons.inj hpieces
            exact ⟨fun hc => beginsBlank_cons.mpr (beginsBlank_cons.mp hc), (ih hrest).2⟩

theorem wordChars_flatten {ps : List (List Char)} (hps : ∀ p ∈ ps.tail, BeginsBlank p) :
    wordChars ps.flatten = ps.flatMap wordChars := by
  induction ps with
  | nil => rfl
  | cons p ps ih =>
      have hlater : ∀ q ∈ ps.tail, BeginsBlank q := fun q hq => hps q (List.mem_of_mem_tail hq)
      have hrest : BeginsBlank ps.flatten := by
        have hall : ∀ q ∈ ps, BeginsBlank q := hps
        clear ih hlater hps
        induction ps with
        | nil => exact beginsBlank_nil
        | cons q ps ih =>
            exact (hall q List.mem_cons_self).append
              (ih fun q' hq' => hall q' (List.mem_cons_of_mem q hq'))
      rw [List.flatten_cons, wordChars_append hrest, ih hlater, List.flatMap_cons]

theorem wordChars_pieces (cs : List Char) : (pieces cs).flatMap wordChars = wordChars cs := by
  rw [← wordChars_flatten, flatten_pieces]
  cases hpieces : pieces cs with
  | nil => simp
  | cons first later => exact (beginsBlank_of_mem_pieces hpieces).2

/-! ### Sentences -/

/-- Pieces of a text, one after another, with nothing but blanks before, between and after them. -/
inductive Cuts : List (List Char) → List Char → Prop
  | blank {gap : List Char} (hgap : ∀ c ∈ gap, isSpace c) : Cuts [] gap
  | piece {gap s rest : List Char} {ss : List (List Char)} (hgap : ∀ c ∈ gap, isSpace c)
      (hrest : Cuts ss rest) : Cuts (s :: ss) (gap ++ (s ++ rest))

namespace Cuts

variable {gap : List Char} {ss : List (List Char)}

theorem blanks_append (hgap : ∀ c ∈ gap, isSpace c) (hcuts : Cuts ss text) :
    Cuts ss (gap ++ text) := by
  have hboth {gap' : List Char} (hgap' : ∀ c ∈ gap', isSpace c) : ∀ c ∈ gap ++ gap', isSpace c :=
    List.forall_mem_append.mpr ⟨hgap, hgap'⟩
  cases hcuts with
  | blank hgap' => exact .blank (hboth hgap')
  | piece hgap' hrest =>
      rw [← List.append_assoc]
      exact .piece (hboth hgap') hrest

theorem filter_flatten (hcuts : Cuts ss text) :
    ss.flatten.filter (!isSpace ·) = text.filter (!isSpace ·) := by
  have hnone {gap : List Char} (hgap : ∀ c ∈ gap, isSpace c) : gap.filter (!isSpace ·) = [] := by
    simpa using hgap
  induction hcuts with
  | blank hgap => simp [hnone hgap]
  | piece hgap hrest ih => simp [hnone hgap, ih]

theorem infix_of_mem (hcuts : Cuts ss text) {s : List Char} (hs : s ∈ ss) : s <:+: text := by
  induction hcuts with
  | blank => cases hs
  | @piece gap s' rest ss hgap hrest ih =>
      rcases List.mem_cons.mp hs with rfl | hs
      · exact ⟨gap, rest, by simp⟩
      · have hrest : rest <:+ gap ++ (s' ++ rest) :=
          (List.suffix_append s' rest).trans (List.suffix_append gap _)
        exact (ih hs).trans hrest.isInfix

end Cuts

theorem cuts_trimmed (ps : List (List Char)) :
    Cuts ((ps.map trimChars).filter (!·.isEmpty)) ps.flatten := by
  induction ps with
  | nil => exact .blank (by simp)
  | cons p ps ih =>
      obtain ⟨before, after, hp, hbefore, hafter⟩ := exists_trimChars p
      have hrest := ih.blanks_append hafter
      rw [List.flatten_cons, List.map_cons]
      conv_rhs => rw [hp]
      simp only [List.append_assoc]
      cases htrimmed : trimChars p with
      | nil => simpa using hrest.blanks_append hbefore
      | cons c cs => exact .piece hbefore hrest

theorem wordChars_sentences (text : List Char) :
    (sentences text).flatMap wordChars = wordChars text := by
  have hkept (ps : List (List Char)) :
      ((ps.map trimChars).filter (!·.isEmpty)).flatMap wordChars = ps.flatMap wordChars := by
    induction ps with
    | nil => rfl
    | cons p ps ih =>
        rw [List.map_cons, List.flatMap_cons, ← ih, ← wordChars_trimChars p]
        cases trimChars p with
        | nil => simp [wordChars_nil]
        | cons c cs => simp
  rw [sentences, hkept, wordChars_pieces]

/-- The mark of a stop. -/
def isStop (c : Char) : Bool := c = '.' || c = '!' || c = '?'

theorem endsSentence_cons (c d : Char) (rest : List Char) :
    endsSentence c (d :: rest) = (isStop c && isSpace d) := rfl

theorem exists_pieces (cs : List Char) : ∃ first later, pieces cs = first :: later := by
  cases cs with
  | nil => exact ⟨_, _, rfl⟩
  | cons c rest =>
      rw [pieces]
      split_ifs
      · exact ⟨_, _, rfl⟩
      · cases pieces rest <;> exact ⟨_, _, rfl⟩

/-- Within a piece no blank follows a stop. -/
theorem not_isSpace_after_stop {p before after : List Char} {c d : Char} (hp : p ∈ pieces cs)
    (hsplit : p = before ++ c :: d :: after) (hc : isStop c) : isSpace d = false := by
  induction cs generalizing p before with
  | nil =>
      rw [pieces, List.mem_singleton] at hp
      simp [hp] at hsplit
  | cons e rest ih =>
      rw [pieces] at hp
      split_ifs at hp with hends
      · rcases List.mem_cons.mp hp with rfl | hp
        · have hlength := congrArg List.length hsplit
          simp only [List.length_append, List.length_cons, List.length_nil] at hlength
          omega
        · exact ih hp hsplit
      · obtain ⟨first, later, hrest⟩ := exists_pieces rest
        rw [hrest, attach, List.mem_cons] at hp
        rcases hp with rfl | hp
        · cases before with
          | cons e' before =>
              exact ih (hrest ▸ List.mem_cons_self) (List.cons.inj hsplit).2
          | nil =>
              obtain ⟨rfl, rfl⟩ := List.cons.inj hsplit
              have htext : rest = d :: (after ++ later.flatten) := by
                rw [← flatten_pieces rest, hrest]
                rfl
              rw [htext, endsSentence_cons, hc, Bool.true_and] at hends
              exact Bool.eq_false_iff.mpr hends
        · exact ih (hrest ▸ List.mem_cons_of_mem first hp) hsplit

/-- Each piece but the last ends with a stop. -/
theorem exists_stop_of_mem_dropLast {p : List Char} (hp : p ∈ (pieces cs).dropLast) :
    ∃ before c, p = before ++ [c] ∧ isStop c := by
  induction cs generalizing p with
  | nil => cases hp
  | cons e rest ih =>
      obtain ⟨first, later, hrest⟩ := exists_pieces rest
      rw [pieces] at hp
      split_ifs at hp with hends
      · rw [hrest, List.dropLast_cons_cons, ← hrest, List.mem_cons] at hp
        rcases hp with rfl | hp
        · exact ⟨[], e, rfl, ((Bool.and_eq_true _ _).mp hends).1⟩
        · exact ih hp
      · rw [hrest] at hp
        rw [hrest] at ih
        cases later with
        | nil => cases hp
        | cons second later =>
            rw [attach, List.dropLast_cons_cons, List.mem_cons] at hp
            rw [List.dropLast_cons_cons] at ih
            rcases hp with rfl | hp
            · obtain ⟨before, c, rfl, hc⟩ := ih List.mem_cons_self
              exact ⟨e :: before, c, rfl, hc⟩
            · exact ih (List.mem_cons_of_mem first hp)

/-- What the sentences of a text are. -/
structure AreSentences (ss : List (List Char)) (text : List Char) : Prop where
  cuts : Cuts ss text
  trimmed : ∀ s ∈ ss, s ≠ [] ∧ trimChars s = s
  /-- A sentence goes no further than the first stop before a blank. -/
  single : ∀ s ∈ ss, ∀ before c d after,
    s = before ++ c :: d :: after → isStop c → isSpace d = false
  stopped : ∀ s ∈ ss.dropLast, ∃ before c, s = before ++ [c] ∧ isStop c

theorem trimChars_of_stop (before : List Char) {c : Char} (hc : isStop c) :
    ∃ before', trimChars (before ++ [c]) = before' ++ [c] := by
  have hspace : isSpace c = false := by
    rw [isStop, Bool.or_eq_true, Bool.or_eq_true] at hc
    rcases hc with (hc | hc) | hc <;> (rw [of_decide_eq_true hc]; decide)
  have hstart : ∃ before', (before ++ [c]).dropWhile isSpace = before' ++ [c] := by
    induction before with
    | nil => exact ⟨[], by simp [hspace]⟩
    | cons d before ih =>
        cases hd : isSpace d with
        | true => simpa [hd] using ih
        | false => exact ⟨d :: before, by simp [hd]⟩
  obtain ⟨before', hbefore⟩ := hstart
  refine ⟨before', ?_⟩
  rw [trimChars, hbefore, trimEndWhile, List.reverse_append]
  simp [hspace]

theorem mem_sentences {s : List Char} : s ∈ sentences text ↔
    ∃ p ∈ pieces text, trimChars p = s ∧ s ≠ [] := by
  rw [sentences, List.mem_filter, List.mem_map]
  constructor
  · rintro ⟨⟨p, hp, rfl⟩, hsome⟩
    exact ⟨p, hp, rfl, by simpa using hsome⟩
  · rintro ⟨p, hp, rfl, hsome⟩
    exact ⟨⟨p, hp, rfl⟩, by simpa using hsome⟩

/-- Only the last piece may be left out, or else it is the last sentence. -/
theorem dropLast_filter_subset {α : Type} (p : α → Bool) (xs : List α) :
    (xs.filter p).dropLast ⊆ xs.dropLast := by
  induction xs with
  | nil => simp
  | cons x xs ih =>
      cases xs with
      | nil => cases hx : p x <;> simp [hx]
      | cons y ys =>
          rw [List.dropLast_cons_cons, List.filter_cons]
          split_ifs
          · cases hkept : (y :: ys).filter p with
            | nil => simp
            | cons z zs =>
                rw [List.dropLast_cons_cons, ← hkept]
                exact List.cons_subset_cons x ih
          · exact List.subset_cons_of_subset x ih

theorem areSentences_sentences (text : List Char) : AreSentences (sentences text) text where
  cuts := by
    have hcuts := cuts_trimmed (pieces text)
    rwa [flatten_pieces] at hcuts
  trimmed := by
    intro s hs
    obtain ⟨p, -, rfl, hsome⟩ := mem_sentences.mp hs
    exact ⟨hsome, trimChars_trimChars p⟩
  single := by
    intro s hs before c d after hsplit hc
    obtain ⟨p, hp, rfl, -⟩ := mem_sentences.mp hs
    obtain ⟨gap, gap', hwhole, -, -⟩ := exists_trimChars p
    have hinside : p = (gap ++ before) ++ c :: d :: (after ++ gap') := by
      rw [hwhole, hsplit]
      simp
    exact not_isSpace_after_stop hp hinside hc
  stopped := by
    intro s hs
    have hmem := dropLast_filter_subset _ _ hs
    rw [← List.map_dropLast] at hmem
    obtain ⟨p, hp, rfl⟩ := List.mem_map.mp hmem
    obtain ⟨before, c, rfl, hc⟩ := exists_stop_of_mem_dropLast hp
    obtain ⟨before', htrimmed⟩ := trimChars_of_stop before hc
    exact ⟨before', c, htrimmed, hc⟩

/-! ### Mentions -/

/-- Whether a text mentions a term of at least three characters, in whatever case. -/
def Mentions (terms : List String) (text : List Char) : Prop :=
  ∃ t ∈ terms, 3 ≤ (lowerChars t.toList).length ∧ lowerChars t.toList <:+: lowerChars text

theorem holds_iff {term text : List Char} : holds term text ↔ term <:+: text := by
  induction text with
  | nil => simp [holds]
  | cons c text ih =>
      rw [holds, Bool.or_eq_true, List.isPrefixOf_iff_prefix, ih, List.infix_cons_iff]

variable {terms : List String}

theorem mentions_searchTerms_iff : mentions (searchTerms terms) text ↔ Mentions terms text := by
  simp only [mentions, searchTerms, Mentions, List.any_eq_true, List.mem_filter, List.mem_map,
    holds_iff, minTermLength]
  constructor
  · rintro ⟨_, ⟨⟨t, ht, rfl⟩, hlong⟩, hin⟩
    exact ⟨t, ht, of_decide_eq_true hlong, hin⟩
  · rintro ⟨t, ht, hlong, hin⟩
    exact ⟨_, ⟨⟨t, ht, rfl⟩, decide_eq_true hlong⟩, hin⟩

/-- A term without a blank is mentioned within a word. -/
theorem mentions_iff_exists_word (hterms : ∀ t ∈ terms, ∀ c ∈ t.toList, isSpace c = false) :
    Mentions terms text ↔ ∃ w ∈ wordChars text, Mentions terms w := by
  have hword {t : String} (ht : t ∈ terms) (hlong : 3 ≤ (lowerChars t.toList).length) :
      lowerChars t.toList <:+: lowerChars text ↔
        ∃ w ∈ wordChars text, lowerChars t.toList <:+: lowerChars w := by
    have hsome : lowerChars t.toList ≠ [] := List.ne_nil_of_length_pos (by omega)
    rw [infix_iff_exists_word hsome fun c hc => not_isSpace_of_mem_lowerAfter (hterms t ht) hc,
      wordChars_lowerChars]
    simp
  constructor
  · rintro ⟨t, ht, hlong, hin⟩
    obtain ⟨w, hw, hin⟩ := (hword ht hlong).mp hin
    exact ⟨w, hw, t, ht, hlong, hin⟩
  · rintro ⟨w, hw, t, ht, hlong, hin⟩
    exact ⟨t, ht, hlong, (hword ht hlong).mpr ⟨w, hw, hin⟩⟩

theorem mentions_iff_exists_sentence (hterms : ∀ t ∈ terms, ∀ c ∈ t.toList, isSpace c = false) :
    Mentions terms text ↔ ∃ s ∈ sentences text, Mentions terms s := by
  rw [mentions_iff_exists_word hterms, ← wordChars_sentences]
  simp only [List.mem_flatMap]
  constructor
  · rintro ⟨w, ⟨s, hs, hw⟩, hmention⟩
    exact ⟨s, hs, (mentions_iff_exists_word hterms).mpr ⟨w, hw, hmention⟩⟩
  · rintro ⟨s, hs, hmention⟩
    obtain ⟨w, hw, hmention⟩ := (mentions_iff_exists_word hterms).mp hmention
    exact ⟨w, ⟨s, hs, hw⟩, hmention⟩

theorem relevantText_eq {source : Json} {description : String}
    (hdescription : description? source = some description) : relevantText source terms =
      ((sentences description.toList).find? (mentions (searchTerms terms))).map .ofList := by
  rw [relevantText, hdescription]
  cases hwanted : searchTerms terms with
  | nil =>
      have hnone : mentions [] = fun _ => false := rfl
      simp [hnone]
  | cons t wanted => rfl

/-- The text shown beside a document is the first sentence of its description that mentions a term,
and there is one whenever the description mentions a term at all. -/
theorem relevantText_of_mention {source : Json} {description : String}
    (hdescription : description? source = some description)
    (hterms : ∀ t ∈ terms, ∀ c ∈ t.toList, isSpace c = false) :
    ((relevantText source terms).isSome ↔ Mentions terms description.toList) ∧
    (∀ shown, relevantText source terms = some shown →
      (∃ before after, sentences description.toList = before ++ shown.toList :: after ∧
        Mentions terms shown.toList ∧ ∀ s ∈ before, ¬ Mentions terms s) ∧
      shown.toList <:+: description.toList ∧ trim shown = shown) ∧
    AreSentences (sentences description.toList) description.toList ∧
    (sentences description.toList).flatten.filter (!isSpace ·)
      = description.toList.filter (!isSpace ·) := by
  have hsentences := areSentences_sentences description.toList
  refine ⟨?_, ?_, hsentences, hsentences.cuts.filter_flatten⟩
  · rw [relevantText_eq hdescription, Option.isSome_map, List.find?_isSome,
      mentions_iff_exists_sentence hterms]
    simp only [mentions_searchTerms_iff]
  · intro shown hshown
    rw [relevantText_eq hdescription, Option.map_eq_some_iff] at hshown
    obtain ⟨s, hfound, rfl⟩ := hshown
    obtain ⟨hmention, before, after, hsplit, hearlier⟩ := List.find?_eq_some_iff_append.mp hfound
    have hs : s ∈ sentences description.toList := List.mem_of_find?_eq_some hfound
    rw [String.toList_ofList]
    refine ⟨⟨before, after, hsplit, mentions_searchTerms_iff.mp hmention, fun s' hs' => ?_⟩,
      hsentences.cuts.infix_of_mem hs, ?_⟩
    · rw [← mentions_searchTerms_iff]
      simpa using hearlier s' hs'
    · rw [trim, String.toList_ofList, (hsentences.trimmed s hs).2]

/-- A description whose second sentence is about the pantry, and a third about its hours. -/
def pantryDescription : String :=
  "Open weekdays. We run a food PANTRY for families. Call the pantry 2.5 hours ahead!"

theorem relevantText_of_mention_of_pantry :
    description? (.obj [("description", .str pantryDescription)]) = some pantryDescription ∧
      (∀ t ∈ ["Pantr"], ∀ c ∈ t.toList, isSpace c = false) ∧
      ∃ shown,
        relevantText (.obj [("description", .str pantryDescription)]) ["Pantr"] = some shown ∧
        shown = "We run a food PANTRY for families." ∧
        shown.toList <:+: pantryDescription.toList ∧ trim shown = shown := by
  have hdescription : description? (.obj [("description", .str pantryDescription)])
      = some pantryDescription := rfl
  have hterms : ∀ t ∈ ["Pantr"], ∀ c ∈ t.toList, isSpace c = false := by decide +kernel
  have hshown : relevantText (.obj [("description", .str pantryDescription)]) ["Pantr"]
      = some "We run a food PANTRY for families." := by
    decide +kernel
  obtain ⟨-, hfirst, -⟩ := relevantText_of_mention hdescription hterms
  obtain ⟨-, hin, htrimmed⟩ := hfirst _ hshown
  exact ⟨hdescription, hterms, _, hshown, rfl, hin, htrimmed⟩

end HybridSearch.Snippet
