import HybridSearch.Proofs.Spacing
import HybridSearch.Proofs.Tagging
import Mathlib.Tactic.MkIffOfInductiveProp

/-!
# Queries in another case

A letter of ASCII is in the same classes of characters in either case, but for that of capitals, and
capitals do no more than tell names from other nouns. So a text is cut in the same places whatever
the case of these letters is, and its pieces have the same lowercase, the same stems and, names and
nouns taken together, the same tags.
-/

namespace HybridSearch

/-! ### Characters -/

namespace Text

variable {c : Char} {p : Char → Bool} {f : Char → Char}

/-- Two characters that are of the same kind in a text, but that one may be a capital. -/
@[mk_iff]
structure IsAlike (c d : Char) : Prop where
  space : isSpace c = isSpace d
  alphanumeric : isAlphanumeric c = isAlphanumeric d
  cased : isCased c = isCased d
  caseIgnorable : isCaseIgnorable c = isCaseIgnorable d
  lower : lowerChar c = lowerChar d
  sigma : c = 'Σ' ↔ d = 'Σ'

instance (c d : Char) : Decidable (IsAlike c d) := decidable_of_iff' _ (isAlike_iff c d)

theorem isAlike_toLower (c : Char) : IsAlike c.toLower c :=
  rel_toLower (by decide +kernel) (fun _ => ⟨rfl, rfl, rfl, rfl, rfl, .rfl⟩) c

@[simp]
theorem isSpace_toLower (c : Char) : isSpace c.toLower = isSpace c := (isAlike_toLower c).space

@[simp]
theorem isAlphanumeric_toLower (c : Char) : isAlphanumeric c.toLower = isAlphanumeric c :=
  (isAlike_toLower c).alphanumeric

@[simp]
theorem lowerChar_toLower (c : Char) : lowerChar c.toLower = lowerChar c :=
  (isAlike_toLower c).lower

/-! ### Pieces of a text -/

theorem takeWhile_map_of_apply (hp : ∀ c, p (f c) = p c) (cs : List Char) :
    (cs.map f).takeWhile p = (cs.takeWhile p).map f := by
  rw [List.takeWhile_map, show p ∘ f = p from funext hp]

theorem dropWhile_map_of_apply (hp : ∀ c, p (f c) = p c) (cs : List Char) :
    (cs.map f).dropWhile p = (cs.dropWhile p).map f := by
  rw [List.dropWhile_map, show p ∘ f = p from funext hp]

theorem trimEndWhile_map (hp : ∀ c, p (f c) = p c) (cs : List Char) :
    trimEndWhile p (cs.map f) = (trimEndWhile p cs).map f := by
  rw [trimEndWhile, ← List.map_reverse, dropWhile_map_of_apply hp, ← List.map_reverse,
    trimEndWhile]

theorem runs_map (hp : ∀ c, p (f c) = p c) (cs : List Char) :
    runs p (cs.map f) = (runs p cs).map (List.map f) := by
  induction cs using runInduction (p := p) with
  | nil => rfl
  | other c rest hc ih =>
      rw [List.map_cons, runs_cons_of_neg ((hp c).trans hc), ih, runs_cons_of_neg hc]
  | run c rest hc ih =>
      rw [List.map_cons, runs_cons_of_pos ((hp c).trans hc), takeWhile_map_of_apply hp,
        dropWhile_map_of_apply hp, ih, runs_cons_of_pos hc, List.map_cons, List.map_cons]

theorem meetsCased_map_toLower (cs : List Char) :
    meetsCased (cs.map Char.toLower) = meetsCased cs := by
  rw [meetsCased, dropWhile_map_of_apply fun c => (isAlike_toLower c).caseIgnorable, meetsCased]
  cases cs.dropWhile isCaseIgnorable with
  | nil => rfl
  | cons c rest => exact (isAlike_toLower c).cased

theorem lowerAfter_map_toLower (before cs : List Char) :
    lowerAfter (before.map Char.toLower) (cs.map Char.toLower) = lowerAfter before cs := by
  induction cs generalizing before with
  | nil => rfl
  | cons c rest ih =>
      simp only [List.map_cons, lowerAfter, (isAlike_toLower c).sigma, lowerChar_toLower,
        meetsCased_map_toLower]
      rw [← List.map_cons, ih]

@[simp]
theorem lowerChars_map_toLower (cs : List Char) :
    lowerChars (cs.map Char.toLower) = lowerChars cs := lowerAfter_map_toLower [] cs

/-! ### Texts -/

variable (s : String)

@[simp]
theorem toList_toLower : s.toLower.toList = s.toList.map Char.toLower := String.toList_map

theorem toLower_ofList (cs : List Char) :
    (String.ofList cs).toLower = .ofList (cs.map Char.toLower) := by
  rw [← String.toList_inj, toList_toLower, String.toList_ofList, String.toList_ofList]

@[simp]
theorem lowercase_toLower : lowercase s.toLower = lowercase s := by
  rw [lowercase, toList_toLower, lowerChars_map_toLower, lowercase]

theorem trim_toLower : trim s.toLower = (trim s).toLower := by
  rw [trim, toList_toLower, trimChars, dropWhile_map_of_apply isSpace_toLower,
    trimEndWhile_map isSpace_toLower, trim, trimChars, toLower_ofList]

theorem words_toLower : words s.toLower = (words s).map String.toLower := by
  have hclass (c : Char) : (!isSpace c.toLower) = !isSpace c := by rw [isSpace_toLower]
  rw [words, toList_toLower, wordChars, runs_map hclass, words, wordChars, List.map_map,
    List.map_map]
  exact List.map_congr_left fun cs _ => (toLower_ofList cs).symm

end Text

namespace Language

open Text

/-! ### Tokens -/

namespace Token

/-- Two characters that are of the same kind to the tokenizer. -/
@[mk_iff]
structure IsAlike (c d : Char) : Prop where
  starts : startsToken c = startsToken d
  continues : continuesToken c = continuesToken d
  trailing : isTrailingMark c = isTrailingMark d
  size : c.utf8Size = d.utf8Size

instance (c d : Char) : Decidable (IsAlike c d) := decidable_of_iff' _ (isAlike_iff c d)

theorem isAlike_toLower (c : Char) : IsAlike c.toLower c :=
  rel_toLower (by decide +kernel) (fun _ => ⟨rfl, rfl, rfl, rfl⟩) c

theorem utf8Length_map_toLower (cs : List Char) :
    utf8Length (cs.map Char.toLower) = utf8Length cs := by
  simp only [utf8Length, List.foldl_map, (isAlike_toLower _).size]

theorem scan_map_toLower (cs : List Char) :
    scan (cs.map Char.toLower) = (scan cs).map (List.map Char.toLower) := by
  have hcontinues (c : Char) : continuesToken c.toLower = continuesToken c :=
    (isAlike_toLower c).continues
  induction cs using scan.induct with
  | case1 => simp
  | case2 c rest hstart ih =>
      have hstart' : startsToken c.toLower := (isAlike_toLower c).starts.trans hstart
      rw [List.map_cons, scan_start hstart', takeWhile_map_of_apply hcontinues,
        dropWhile_map_of_apply hcontinues, ih, scan_start hstart, List.map_cons, List.map_cons]
  | case3 c rest hstart hspace ih =>
      rw [List.map_cons, scan_blank ((isSpace_toLower c).trans hspace), ih, scan_blank hspace]
  | case4 c rest hstart hspace ih =>
      have hstart : startsToken c = false := Bool.eq_false_iff.mpr hstart
      have hspace : isSpace c = false := Bool.eq_false_iff.mpr hspace
      have hstart' : startsToken c.toLower = false := (isAlike_toLower c).starts.trans hstart
      rw [List.map_cons, scan_other hstart' ((isSpace_toLower c).trans hspace), ih,
        scan_other hstart hspace, List.map_cons, List.map_singleton]

theorem trimMarks_map_toLower (cs : List Char) :
    trimMarks (cs.map Char.toLower) = (trimMarks cs).map Char.toLower := by
  rw [trimMarks, utf8Length_map_toLower, trimEndWhile_map fun c => (isAlike_toLower c).trailing,
    ← apply_ite (List.map Char.toLower), trimMarks]

theorem tokenize_map_toLower (cs : List Char) :
    tokenize (cs.map Char.toLower) = (tokenize cs).map (List.map Char.toLower) := by
  have htrimmed : trimMarks ∘ List.map Char.toLower = List.map Char.toLower ∘ trimMarks :=
    funext trimMarks_map_toLower
  have hempty : (!List.isEmpty ·) ∘ List.map Char.toLower = (!List.isEmpty ·) :=
    funext fun cs => congrArg (!·) List.isEmpty_map
  rw [tokenize, scan_map_toLower, List.map_map, htrimmed, ← List.map_map, List.filter_map, hempty,
    tokenize]

end Token

/-! ### Tags -/

namespace Tag

/-- Names and other nouns under one tag. -/
def common : Tag → Tag
  | properNoun => noun
  | tag => tag

variable {token token' : List Char} {prev prev' : Option Tag}

theorem isNoun_common (tag : Tag) : tag.common.isNoun = tag.isNoun := by
  cases tag <;> rfl

theorem common_eq_iff {tag tag' : Tag} (htag : tag.isNoun = false) :
    tag'.common = tag ↔ tag' = tag := by
  unfold common
  split
  · constructor <;> (rintro rfl; cases htag)
  · rfl

theorem eq_iff_of_common {tag : Tag} (htag : tag.isNoun = false)
    (hprev : prev.map common = prev'.map common) : prev = some tag ↔ prev' = some tag := by
  have hsame (prev : Option Tag) : prev.map common = some tag ↔ prev = some tag := by
    simp [Option.map_eq_some_iff, common_eq_iff htag]
  rw [← hsame, hprev, hsame]

/-- Two tokens in different case have one tag, but that one may be a name and the other a noun. -/
theorem common_ofToken_congr (halphanumeric : token.any isAlphanumeric = token'.any isAlphanumeric)
    (hlower : lowerChars token = lowerChars token') (hprev : prev.map common = prev'.map common)
    (next : Option String) :
    (ofToken token prev next).common = (ofToken token' prev' next).common := by
  have hdetail : Entity.recognised token (lowerChars token') =
      Entity.recognised token' (lowerChars token') := by
    rw [Bool.eq_iff_iff, Entity.recognised_iff, ← hlower, Entity.recognised_iff]
  have hdeterminer : prev = some determiner ↔ prev' = some determiner :=
    eq_iff_of_common rfl hprev
  have hadjective : prev = some adjective ↔ prev' = some adjective := eq_iff_of_common rfl hprev
  have hname : properNoun.common = noun := rfl
  have hnoun : noun.common = noun := rfl
  simp only [ofToken, halphanumeric, hlower, hdetail, Ne, hdeterminer, hadjective]
  cases closedClass? (.ofList (lowerChars token')) next with
  | some tag => rfl
  | none => simp only [apply_ite common, hname, hnoun, ite_self]

end Tag

/-- What the nouns of a text are made from. -/
def commonForms (tagged : List TaggedToken) : List (String × Tag) :=
  tagged.map fun t => (lowercase t.text, t.tag.common)

theorem commonForms_tagTokens {prev prev' : Option Tag}
    (hprev : prev.map Tag.common = prev'.map Tag.common) (tokens : List (List Char)) :
    commonForms (tagTokens prev (tokens.map (List.map Char.toLower))) =
      commonForms (tagTokens prev' tokens) := by
  -- Behind a name and behind another noun the tokens that follow are tagged alike.
  induction tokens generalizing prev prev' with
  | nil => rfl
  | cons token tokens ih =>
      have hnext : (tokens.map (List.map Char.toLower)).head?.map
            (fun t => String.ofList (lowerChars t)) =
          tokens.head?.map fun t => .ofList (lowerChars t) := by
        cases tokens <;> simp
      have halphanumeric :
          (token.map Char.toLower).any isAlphanumeric = token.any isAlphanumeric := by
        simp [List.any_map, Function.comp_def]
      have htag := Tag.common_ofToken_congr halphanumeric (lowerChars_map_toLower token) hprev
        (tokens.head?.map fun t => .ofList (lowerChars t))
      have hlower : lowercase (.ofList (token.map Char.toLower)) = lowercase (.ofList token) := by
        rw [← toLower_ofList, lowercase_toLower]
      have hlater := @ih (some _) (some _) (congrArg some htag)
      simp only [commonForms] at hlater
      simp only [commonForms, List.map_cons, tagTokens, hnext, hlower, htag, hlater]

/-! ### Nouns and stems -/

variable (s : String)

theorem nounForms_eq (text : String) :
    nounForms text = ((commonForms (tagText text)).filter (·.2.isNoun)).map (·.1) := by
  rw [nounForms, commonForms, List.filter_map, List.map_map]
  simp only [Function.comp_def, Tag.isNoun_common]

theorem nounForms_toLower : nounForms s.toLower = nounForms s := by
  rw [nounForms_eq, tagText, toList_toLower, Token.tokenize_map_toLower,
    commonForms_tagTokens rfl, nounForms_eq, tagText]

theorem extractNouns_toLower : extractNouns s.toLower = extractNouns s := by
  rw [extractNouns_eq, nounForms_toLower, extractNouns_eq]

theorem Stem.ofPiece_map_toLower (cs : List Char) :
    Stem.ofPiece (cs.map Char.toLower) = Stem.ofPiece cs := by
  simp only [Stem.ofPiece, List.flatMap_map, lowerChar_toLower]

theorem stem_toLower : stem s.toLower = stem s := by
  rw [stem, toList_toLower, runs_map isAlphanumeric_toLower, List.map_map, stem]
  simp only [Function.comp_def, Stem.ofPiece_map_toLower]

theorem isGenericWord_toLower (stoplist : Stoplist) :
    stoplist.isGenericWord s.toLower = stoplist.isGenericWord s := by
  rw [Stoplist.isGenericWord, lowercase_toLower, Stoplist.isGenericWord]

theorem isAllGeneric_toLower (stoplist : Stoplist) :
    stoplist.isAllGeneric s.toLower = stoplist.isAllGeneric s := by
  simp only [Stoplist.isAllGeneric, words_toLower, List.all_map, Function.comp_def,
    isGenericWord_toLower]

/-! ### Queries -/

theorem isShortQuery_toLower : isShortQuery s.toLower = isShortQuery s := by
  rw [isShortQuery, wordCount, words_toLower, List.length_map, isShortQuery, wordCount]

theorem stemShortWord_toLower : stemShortWord s.toLower = stemShortWord s := by
  have hlength : s.toLower.length = s.length := String.length_map
  rw [stemShortWord, hlength, stem_toLower, lowercase_toLower, stemShortWord]

theorem stemmedForm_toLower (stoplist : Stoplist) :
    stemmedForm stoplist s.toLower = stemmedForm stoplist s := by
  simp only [stemmedForm, isShortQuery_toLower, extractNouns_toLower, stemShort, words_toLower,
    List.map_map, Function.comp_def, stemShortWord_toLower]

theorem stemQuery_toLower (stoplist : Stoplist) : stemQuery stoplist s.toLower =
    { stemQuery stoplist s with query := (trim s).toLower } := by
  simp only [stemQuery_eq, trim_toLower, stemmedForm_toLower, lowercase_toLower,
    isShortQuery_toLower, extractNouns_toLower]

/-- The analysis of a query does not depend on the case of the letters of ASCII in it. -/
theorem analysis_eq_of_toLower_eq (stoplist : Stoplist) {p q : String}
    (hcase : p.toLower = q.toLower) :
    extractNouns p = extractNouns q ∧ stoplist.isAllGeneric p = stoplist.isAllGeneric q ∧
      (stemQuery stoplist p).stemmed = (stemQuery stoplist q).stemmed ∧
      (stemQuery stoplist p).useful = (stemQuery stoplist q).useful ∧
      (stemQuery stoplist p).nouns = (stemQuery stoplist q).nouns := by
  have hstem := stemQuery_toLower p stoplist
  rw [hcase, stemQuery_toLower] at hstem
  injection hstem with _ hstemmed huseful hnouns
  refine ⟨?_, ?_, hstemmed.symm, huseful.symm, hnouns.symm⟩
  · rw [← extractNouns_toLower, hcase, extractNouns_toLower]
  · rw [← isAllGeneric_toLower, hcase, isAllGeneric_toLower]

theorem analysis_eq_of_capitals :
    "HELP with my Rent".toLower = "help with my rent".toLower ∧
      extractNouns "HELP with my Rent" = ["help", "rent"] ∧
      (stemQuery (.ofNouns ["help"]) "HELP with my Rent").stemmed = "rent" ∧
      (stemQuery (.ofNouns ["help"]) "HELP with my Rent").useful = true := by
  have hcase : "HELP with my Rent".toLower = "help with my rent".toLower := by
    rw [← String.toList_inj, toList_toLower, toList_toLower]
    decide
  obtain ⟨hnouns, -, hstemmed, huseful, -⟩ := analysis_eq_of_toLower_eq (.ofNouns ["help"]) hcase
  have hlower : extractNouns "help with my rent" = ["help", "rent"] := by decide +kernel
  have hstem : stemQuery (.ofNouns ["help"]) "help with my rent" =
      ⟨"help with my rent", "rent", true, some ["help", "rent"]⟩ := by
    decide +kernel
  rw [hnouns, hlower, hstemmed, huseful, hstem]
  exact ⟨hcase, rfl, rfl, rfl⟩

end Language

end HybridSearch
