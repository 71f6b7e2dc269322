import HybridSearch.Proofs.Details
import HybridSearch.Proofs.Distinct

/-!
# Which tokens are nouns

A token is a noun if it holds a letter or a digit, no word list has its lowercase form, and that
form is neither a detail nor a plain number, unless it stands before an object pronoun and acts as a
verb. A detail in any case is a detail in lowercase, so its lowercase form is all there is to look
at.
-/

namespace HybridSearch.Language

open Text Pattern

/-! ### Details in any case -/

namespace Entity

variable {a b p : Pattern} {c : Char} {v : List Char}

/-- A pattern that goes on matching a text when it is put into lowercase. -/
def IsFolding (p : Pattern) : Prop := ∀ v, Matches p v → Matches p (v.flatMap foldChar)

theorem IsFolding.seq (ha : IsFolding a) (hb : IsFolding b) : IsFolding (.seq a b) := by
  intro v hv
  obtain ⟨t, u, ht, hu, rfl⟩ := matches_seq_iff.mp hv
  rw [List.flatMap_append]
  exact .seq (ha t ht) (hb u hu)

theorem IsFolding.star (ha : IsFolding a) : IsFolding (.star a) := by
  intro v hv
  generalize hbody : Pattern.star a = body at hv
  induction hv with
  | empty => cases hbody
  | one => cases hbody
  | seq => cases hbody
  | altLeft => cases hbody
  | altRight => cases hbody
  | starNil => exact .starNil
  | starCons ht _ _ ih =>
      cases hbody
      rw [List.flatMap_append]
      exact .starCons (ha _ ht) (ih rfl)

theorem IsFolding.plus (ha : IsFolding a) : IsFolding (.plus a) := ha.seq ha.star

/-- The characters of some patterns have no lowercase of their own. -/
theorem isFolding_of_classes (hp : ∀ q ∈ p.classes, ∀ c, q c → foldChar c = [c]) :
    IsFolding p := by
  intro v hv
  have hsame : v.flatMap foldChar = v := by
    rw [List.flatMap_congr (g := ([·]))]
    · simp
    · intro c hc
      obtain ⟨q, hq, hqc⟩ := exists_class_of_mem hv hc
      exact hp q hq c hqc
  rwa [hsame]

/-- A repeated class may have a lowercase of several characters, if all of them belong to it. -/
theorem isFolding_plus_one {q : Char → Bool} (hq : ∀ c, isWord c → q c) :
    IsFolding (.plus (one q)) := by
  intro v hv
  obtain ⟨hsome, hall⟩ := matches_plus_one_iff.mp hv
  refine matches_plus_one_iff.mpr ⟨?_, fun d hd => ?_⟩
  · obtain ⟨c, v, rfl⟩ := List.exists_cons_of_ne_nil hsome
    exact List.append_ne_nil_of_left_ne_nil (foldChar_ne_nil c) _
  · obtain ⟨c, hc, hd⟩ := List.mem_flatMap.mp hd
    rw [eq_of_mem_foldChar hq hd]
    exact hall c hc

theorem foldChar_of_isDecimal (hc : isDecimal c) : foldChar c = [c] := by
  have hsigma : c ≠ 'ς' := by
    rintro rfl
    exact absurd hc (by decide +kernel)
  simp [foldChar, lowerChar_of_isDecimal hc, mergeSigma, hsigma]

theorem isFolding_email : IsFolding email := by
  have hmarks : ∀ c ∈ ['@', '.'], foldChar c = [c] := by decide +kernel
  have hat : IsFolding (char '@') := isFolding_of_classes (by simp [char, classes, hmarks])
  have hpoint : IsFolding (char '.') := isFolding_of_classes (by simp [char, classes, hmarks])
  have hempty : IsFolding .empty := isFolding_of_classes (by simp [classes])
  have hlabel : IsFolding (plus (one fun c => isWord c || c = '-')) :=
    isFolding_plus_one (by simp +contextual)
  have huser : IsFolding (plus (one fun c => isWord c || ".+-".toList.contains c)) :=
    isFolding_plus_one (by simp +contextual)
  exact huser.seq (hat.seq (hlabel.seq ((hpoint.seq hlabel).plus.seq hempty)))

theorem isFolding_url : IsFolding url := by
  have hmarks : ∀ c ∈ "htps:/w.".toList, foldChar c = [c] := by decide +kernel
  have hopening : IsFolding (any [all [literal "http", Pattern.optional (char 's'),
      literal "://"], literal "www."]) :=
    isFolding_of_classes
      (by simpa [any, all, literal, Pattern.optional, char, classes] using hmarks)
  have hempty : IsFolding .empty := isFolding_of_classes (by simp [classes])
  have hrest : IsFolding (plus (one fun c => !isSpace c)) :=
    isFolding_plus_one fun c hc => by simp [not_isSpace_of_isWord hc]
  exact hopening.seq (hrest.seq hempty)

theorem isFolding_of_mem_patterns (hp : p ∈ patterns) : IsFolding p := by
  have hmarks : ∀ c ∈ ['(', ')', '-', '.', ':', '/', '$', ',', 'a', 'p', 'm', 's', 't', 'n', 'd',
      'r', 'h'], foldChar c = [c] := by
    decide +kernel
  simp only [List.forall_mem_cons] at hmarks
  simp only [patterns, List.mem_cons, List.not_mem_nil, or_false] at hp
  rcases hp with rfl | rfl | rfl | rfl | rfl | rfl | rfl
  · exact isFolding_email
  · exact isFolding_url
  all_goals
    apply isFolding_of_classes
    simp +contextual [phone, time, date, ordinal, money, all, any, between, repeated, upTo,
      Pattern.optional, plus, literal, char, decimal, classes, or_imp, foldChar_of_isDecimal,
      hmarks]

/-- A detail is still one in lowercase. -/
theorem isDetailChars_lowerChars (hv : IsDetailChars v) : IsDetailChars (lowerChars v) := by
  obtain ⟨p, hp, hmatch⟩ := hv
  rw [← isDetailChars_map_mergeSigma, lowerChars, map_mergeSigma_lowerAfter]
  exact ⟨p, hp, isFolding_of_mem_patterns hp v hmatch⟩

theorem isDetailChars_iff : IsDetailChars v ↔ ∃ p ∈ patterns, p.accepts v :=
  exists_congr fun _ => and_congr_right fun _ => accepts_iff.symm

/-- Only the lowercase form of a token matters for whether it is recognised. -/
theorem recognised_iff (token : List Char) : recognised token (lowerChars token) ↔
    .ofList (lowerChars token) ∈ Lexicon.months ++ Lexicon.weekdays ∨
      IsDetailChars (lowerChars token) := by
  have hwritten : (∃ p ∈ patterns, p.accepts token ∨ p.accepts (lowerChars token)) ↔
      IsDetailChars (lowerChars token) := by
    rw [isDetailChars_iff]
    constructor
    · rintro ⟨p, hp, htoken | hlower⟩
      · have hdetail : IsDetailChars token := isDetailChars_iff.mpr ⟨p, hp, htoken⟩
        exact isDetailChars_iff.mp (isDetailChars_lowerChars hdetail)
      · exact ⟨p, hp, hlower⟩
    · rintro ⟨p, hp, hlower⟩
      exact ⟨p, hp, .inr hlower⟩
  rw [← hwritten]
  simp [recognised, or_assoc]

end Entity

/-! ### What claims a token -/

/-- The words that have a tag of their own, whatever stands around them. -/
def Lexicon.listed : List String :=
  determiners ++ pronouns ++ adpositions ++ conjunctions ++ auxiliaries ++ particles ++ adverbs ++
    verbs ++ adjectives

/-- A lowercase form that nothing claims: no list has it, and it is no detail and no plain
number. -/
structure IsOpen (lower : String) : Prop where
  word : lower ∉ Lexicon.listed
  date : lower ∉ Lexicon.months ++ Lexicon.weekdays
  detail : ¬ Entity.IsDetailChars lower.toList
  number : ∃ c ∈ lower.toList, c.isDigit = false ∧ c ≠ ',' ∧ c ≠ '.'

namespace Tag

def isNoun (tag : Tag) : Bool := tag = noun || tag = properNoun

variable {token : List Char} {prev : Option Tag} {next : Option String} {lower : String}

theorem ite_some_eq_none_iff {α : Type} {p : Prop} [Decidable p] {x : α} {rest : Option α} :
    (if p then some x else rest) = none ↔ ¬ p ∧ rest = none := by
  split_ifs with hp <;> simp [hp]

/-- A word before a verb may be a particle, but it is on a list of its own as well. -/
theorem closedClass?_eq_none_iff : closedClass? lower next = none ↔ lower ∉ Lexicon.listed := by
  simp only [closedClass?, ite_some_eq_none_iff, Lexicon.listed, List.contains_iff_mem,
    List.mem_append, not_or, and_true, and_assoc]
  refine and_congr_right fun _ => and_congr_right fun _ => and_iff_right_of_imp ?_
  rintro ⟨hadposition, -⟩ ⟨rfl, -⟩
  exact hadposition (by decide)

theorem all_ite_some {α : Type} {p : Prop} [Decidable p] {P : α → Bool} {x : α}
    {rest : Option α} (hx : P x) (hrest : rest.all P) : (if p then some x else rest).all P := by
  split_ifs
  · exact hx
  · exact hrest

theorem not_isNoun_of_closedClass? {tag : Tag} (htag : closedClass? lower next = some tag) :
    tag.isNoun = false := by
  have hall : (closedClass? lower next).all (!·.isNoun) := by
    rw [closedClass?]
    repeat refine all_ite_some (by decide) ?_
    rfl
  simpa [htag] using hall

theorem isPlainNumber_eq_false_iff {cs : List Char} : isPlainNumber cs = false ↔
    ∃ c ∈ cs, c.isDigit = false ∧ c ≠ ',' ∧ c ≠ '.' := by
  simp [isPlainNumber, and_assoc]

/-- What is left once everything that is claimed has been ruled out. -/
theorem ofToken_eq_of_isOpen (halphanumeric : token.any isAlphanumeric)
    (hopen : IsOpen (.ofList (lowerChars token))) : ofToken token prev next =
      if next.any Lexicon.objectPronouns.contains ∧ prev ≠ some determiner ∧
          prev ≠ some adjective then verb
      else if prev ≠ none ∧ token.head?.any isUppercase then properNoun
      else noun := by
  have hdetail : Entity.recognised token (lowerChars token) = false := by
    rw [← Bool.not_eq_true, Entity.recognised_iff, not_or]
    exact ⟨hopen.date, by simpa using hopen.detail⟩
  have hnumber : isPlainNumber (lowerChars token) = false :=
    isPlainNumber_eq_false_iff.mpr (by simpa using hopen.number)
  have hword : closedClass? (.ofList (lowerChars token)) next = none :=
    closedClass?_eq_none_iff.mpr hopen.word
  simp only [ofToken, halphanumeric, hdetail, hnumber, hword, Bool.not_true, Bool.false_eq_true,
    if_false]

theorem isOpen_of_isNoun (hnoun : (ofToken token prev next).isNoun) :
    token.any isAlphanumeric ∧ IsOpen (.ofList (lowerChars token)) := by
  obtain ⟨halphanumeric, hrecognised⟩ := noun_of_ofToken (by simpa [isNoun] using hnoun)
  have hdetail := hrecognised
  rw [← Bool.not_eq_true, Entity.recognised_iff, not_or] at hdetail
  rw [ofToken, halphanumeric, hrecognised] at hnoun
  cases hnumber : isPlainNumber (lowerChars token) with
  | true => simp [hnumber, isNoun] at hnoun
  | false =>
      cases hword : closedClass? (.ofList (lowerChars token)) next with
      | some tag =>
          simp only [hnumber, hword, Bool.not_true, Bool.false_eq_true, if_false] at hnoun
          rw [not_isNoun_of_closedClass? hword] at hnoun
          exact absurd hnoun Bool.false_ne_true
      | none =>
          refine ⟨halphanumeric, ⟨closedClass?_eq_none_iff.mp hword, hdetail.1, ?_, ?_⟩⟩
          · simpa using hdetail.2
          · simpa using isPlainNumber_eq_false_iff.mp hnumber

/-- Tags of nouns come last of all, so that everything else has been ruled out. -/
theorem isNoun_ofToken_iff : (ofToken token prev next).isNoun ↔
    (token.any isAlphanumeric ∧ IsOpen (.ofList (lowerChars token))) ∧
      ((∃ word ∈ next, word ∈ Lexicon.objectPronouns) →
        prev = some determiner ∨ prev = some adjective) := by
  have hacts : (next.any Lexicon.objectPronouns.contains ∧ prev ≠ some determiner ∧
      prev ≠ some adjective) ↔ ¬ ((∃ word ∈ next, word ∈ Lexicon.objectPronouns) →
        prev = some determiner ∨ prev = some adjective) := by
    rw [Classical.not_imp, not_or]
    exact and_congr_left' (by simp [Option.any_eq_true])
  constructor
  · intro hnoun
    obtain ⟨halphanumeric, hopen⟩ := isOpen_of_isNoun hnoun
    rw [ofToken_eq_of_isOpen halphanumeric hopen] at hnoun
    refine ⟨⟨halphanumeric, hopen⟩, ?_⟩
    by_contra hverb
    rw [if_pos (hacts.mpr hverb)] at hnoun
    exact absurd hnoun (by decide)
  · rintro ⟨⟨halphanumeric, hopen⟩, hstays⟩
    rw [ofToken_eq_of_isOpen halphanumeric hopen, if_neg (mt hacts.mp (not_not_intro hstays))]
    split_ifs <;> rfl

end Tag

/-! ### The tokens of a text -/

def textTokens (text : String) : List String := (Token.tokenize text.toList).map .ofList

/-- The lowercase forms of the tokens tagged as nouns, as often as they occur. -/
def nounForms (text : String) : List String :=
  ((tagText text).filter (·.tag.isNoun)).map (lowercase ·.text)

section

variable {prev : Option Tag} {tokens : List (List Char)} {pre post : List TaggedToken}
  {t : TaggedToken} {text noun : String}

theorem map_text_tagTokens (prev : Option Tag) (tokens : List (List Char)) :
    (tagTokens prev tokens).map (·.text) = tokens.map .ofList := by
  induction tokens generalizing prev with
  | nil => rfl
  | cons token tokens ih =>
      rw [tagTokens, List.map_cons, ih]
      rfl

theorem head?_tagTokens (prev : Option Tag) (tokens : List (List Char)) :
    (tagTokens prev tokens).head?.map (lowercase ·.text) =
      tokens.head?.map fun token => .ofList (lowerChars token) := by
  cases tokens with
  | nil => rfl
  | cons token tokens => simp [tagTokens, lowercase]

/-- A token is tagged after the tag before it and before the lowercase form of the next one. -/
theorem tag_eq_of_split (hsplit : tagTokens prev tokens = pre ++ t :: post) :
    t.tag = Tag.ofToken t.text.toList ((pre.getLast?.map (·.tag)).or prev)
      (post.head?.map (lowercase ·.text)) := by
  induction pre generalizing prev tokens with
  | nil =>
      cases tokens with
      | nil => cases hsplit
      | cons token tokens =>
          obtain ⟨rfl, rfl⟩ := List.cons.inj hsplit
          simp [head?_tagTokens]
  | cons p pre ih =>
      cases tokens with
      | nil => cases hsplit
      | cons token tokens =>
          obtain ⟨rfl, hrest⟩ := List.cons.inj hsplit
          rw [ih hrest, List.getLast?_cons]
          cases pre.getLast? <;> rfl

/-- Which tokens of a text are tagged as nouns. Before an object pronoun a token is one only behind
a determiner or an adjective. -/
theorem isNoun_iff_of_split (hsplit : tagText text = pre ++ t :: post) : t.tag.isNoun ↔
    (t.text.toList.any isAlphanumeric ∧ IsOpen (lowercase t.text)) ∧
      ((∃ next ∈ post.head?, lowercase next.text ∈ Lexicon.objectPronouns) →
        ∃ p ∈ pre.getLast?, p.tag = .determiner ∨ p.tag = .adjective) := by
  rw [tag_eq_of_split hsplit, Tag.isNoun_ofToken_iff, lowercase, Option.or_none]
  refine and_congr_right' (imp_congr ?_ ?_)
  · simp
  · simp [← exists_or, ← and_or_left]

theorem extractNouns_eq (text : String) : extractNouns text = (nounForms text).eraseDups := rfl

theorem mem_extractNouns_iff : noun ∈ extractNouns text ↔
    ∃ pre t post, tagText text = pre ++ t :: post ∧ t.tag.isNoun ∧ lowercase t.text = noun := by
  rw [extractNouns_eq, List.mem_eraseDups, nounForms, List.mem_map]
  constructor
  · rintro ⟨t, ht, rfl⟩
    obtain ⟨hmem, htag⟩ := List.mem_filter.mp ht
    obtain ⟨pre, post, hsplit⟩ := List.append_of_mem hmem
    exact ⟨pre, t, post, hsplit, htag, rfl⟩
  · rintro ⟨pre, t, post, hsplit, htag, rfl⟩
    exact ⟨t, List.mem_filter.mpr ⟨by simp [hsplit], htag⟩, rfl⟩

theorem exists_split_tagText {before after : List String} {token : String}
    (hsplit : textTokens text = before ++ token :: after) : ∃ pre t post,
      tagText text = pre ++ t :: post ∧ t.text = token ∧ post.map (·.text) = after := by
  rw [textTokens, ← map_text_tagTokens none] at hsplit
  obtain ⟨pre, rest, hrest, -, hmap⟩ := List.map_eq_append_iff.mp hsplit
  obtain ⟨t, post, rfl, htext, hpost⟩ := List.map_eq_cons_iff.mp hmap
  exact ⟨pre, t, post, hrest, htext, hpost⟩

end

/-- The nouns of a text are the lowercase forms of the tokens tagged as nouns, each once, in the
order in which they are met first. Nothing claims any of them, and a token with a letter or a digit
whose lowercase form nothing claims gives one, if no object pronoun follows it. -/
theorem extractNouns_sound_complete (text : String) :
    (tagText text).map (·.text) = textTokens text ∧
    (extractNouns text).Nodup ∧ (extractNouns text).Pairwise (FirstBefore (nounForms text)) ∧
    (∀ noun ∈ extractNouns text, noun ∈ nounForms text ∧
      (∃ token ∈ textTokens text, noun = lowercase token) ∧ IsOpen noun) ∧
    ∀ before token after, textTokens text = before ++ token :: after →
      token.toList.any isAlphanumeric → IsOpen (lowercase token) →
      (∀ next ∈ after.head?, lowercase next ∉ Lexicon.objectPronouns) →
        lowercase token ∈ extractNouns text := by
  refine ⟨map_text_tagTokens none _, ?_, ?_, fun noun hnoun => ?_, ?_⟩
  · rw [extractNouns_eq]
    exact nodup_eraseDups _
  · rw [extractNouns_eq]
    exact pairwise_eraseDups _
  · obtain ⟨pre, t, post, hsplit, htag, rfl⟩ := mem_extractNouns_iff.mp hnoun
    refine ⟨?_, ⟨t.text, ?_, rfl⟩, ((isNoun_iff_of_split hsplit).mp htag).1.2⟩
    · rwa [extractNouns_eq, List.mem_eraseDups] at hnoun
    · have hmem : t.text ∈ (tagText text).map (·.text) := by simp [hsplit]
      rwa [tagText, map_text_tagTokens] at hmem
  · intro before token after hsplit halphanumeric hopen hnext
    obtain ⟨pre, t, post, htagged, rfl, rfl⟩ := exists_split_tagText hsplit
    refine mem_extractNouns_iff.mpr ⟨pre, t, post, htagged, ?_, rfl⟩
    rw [isNoun_iff_of_split htagged]
    refine ⟨⟨halphanumeric, hopen⟩, ?_⟩
    rintro ⟨next, hmem, hpronoun⟩
    refine absurd hpronoun (hnext next.text ?_)
    rw [List.head?_map]
    exact Option.mem_map_of_mem _ hmem

end HybridSearch.Language
