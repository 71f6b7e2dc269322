import HybridSearch.Language.Nouns
import HybridSearch.Proofs.Classes
import HybridSearch.Proofs.Words

/-!
# The tokens of a text

No token reaches over a blank, so the tokens of a text are those of its words. A word is cut into
single characters up to the first one that begins a longer token, then that token, then what its
tail is cut into. Nouns are taken from tokens that hold a letter or a digit and are no recognised
detail.
-/

namespace HybridSearch.Language

open Text

namespace Token

variable {c : Char} {a b cs rest w t : List Char}

/-! ### Classes of characters -/

theorem continuesToken_of_startsToken (hc : startsToken c) : continuesToken c := by
  simp only [startsToken, Bool.or_eq_true, decide_eq_true_eq] at hc
  rcases hc with hword | rfl
  · simp [continuesToken, hword]
  · decide

theorem not_isSpace_of_continuesToken (hc : continuesToken c) : isSpace c = false := by
  simp only [continuesToken, Bool.or_eq_true] at hc
  rcases hc with hword | hmark
  · exact not_isSpace_of_isWord hword
  · have hmarks : ∀ d ∈ "'@.:/$,+-".toList, isSpace d = false := by decide
    exact hmarks c (List.contains_iff_mem.mp hmark)

theorem not_isSpace_of_startsToken (hc : startsToken c) : isSpace c = false :=
  not_isSpace_of_continuesToken (continuesToken_of_startsToken hc)

theorem not_isTrailingMark_of_startsToken (hc : startsToken c) : isTrailingMark c = false := by
  rw [← Bool.not_eq_true]
  intro hmark
  have hmarks : ∀ d ∈ ".,:/'".toList, startsToken d = false := by decide
  rw [hmarks c (List.contains_iff_mem.mp hmark)] at hc
  exact absurd hc (by decide)

/-! ### Scanning -/

@[simp]
theorem scan_nil : scan [] = [] := by
  rw [scan]

theorem scan_start (hc : startsToken c) : scan (c :: rest) =
    (c :: rest.takeWhile continuesToken) :: scan (rest.dropWhile continuesToken) := by
  rw [scan, if_pos hc]

theorem scan_blank (hc : isSpace c) : scan (c :: rest) = scan rest := by
  have hstart : ¬ startsToken c := by
    intro hstart
    simp [not_isSpace_of_startsToken hstart] at hc
  rw [scan, if_neg hstart, if_pos hc]

theorem scan_other (hstart : startsToken c = false) (hc : isSpace c = false) :
    scan (c :: rest) = [c] :: scan rest := by
  simp [scan, hstart, hc]

/-- A token does not go on at a blank. -/
theorem not_continuesToken_of_beginsBlank (hb : BeginsBlank b) :
    ∀ c ∈ b.head?, continuesToken c = false := by
  intro c hc
  rw [← Bool.not_eq_true]
  intro hcontinues
  have hblank := hb c hc
  simp [not_isSpace_of_continuesToken hcontinues] at hblank

theorem scan_append (hb : BeginsBlank b) : scan (a ++ b) = scan a ++ scan b := by
  induction a using scan.induct with
  | case1 => simp
  | case2 c rest hstart ih =>
      have hstop := not_continuesToken_of_beginsBlank hb
      rw [List.cons_append, scan_start hstart, scan_start hstart, takeWhile_append_of_stop hstop,
        dropWhile_append_of_stop hstop, ih, List.cons_append]
  | case3 c rest hstart hspace ih => rw [List.cons_append, scan_blank hspace, scan_blank hspace, ih]
  | case4 c rest hstart hspace ih =>
      have hstart' : startsToken c = false := Bool.eq_false_iff.mpr hstart
      have hspace' : isSpace c = false := Bool.eq_false_iff.mpr hspace
      rw [List.cons_append, scan_other hstart' hspace', scan_other hstart' hspace', ih,
        List.cons_append]

/-! ### Tokens -/

theorem tokenize_append (hb : BeginsBlank b) : tokenize (a ++ b) = tokenize a ++ tokenize b := by
  rw [tokenize, scan_append hb, List.map_append, List.filter_append]
  rfl

theorem tokenize_eq_flatMap (cs : List Char) : tokenize cs = (wordChars cs).flatMap tokenize := by
  induction cs using wordInduction with
  | nil => simp [tokenize, wordChars_nil]
  | blank c rest hc ih => rw [wordChars_blank hc, ← ih, tokenize, scan_blank hc, tokenize]
  | word w rest hsome hword hrest ih =>
      rw [wordChars_word hsome hword hrest, List.flatMap_cons, ← ih, tokenize_append hrest]

theorem utf8Length_cons_cons (c d : Char) (cs : List Char) : 1 < utf8Length (c :: d :: cs) := by
  have hgrows (size : Nat) (cs : List Char) : size ≤ cs.foldl (fun n c => n + c.utf8Size) size := by
    induction cs generalizing size with
    | nil => exact le_rfl
    | cons e cs ih => exact (Nat.le_add_right _ _).trans (ih _)
  have hc := c.utf8Size_pos
  have hd := d.utf8Size_pos
  calc 1 < 0 + c.utf8Size + d.utf8Size := by omega
    _ ≤ utf8Length (c :: d :: cs) := hgrows _ cs

theorem trimMarks_single (c : Char) : trimMarks [c] = [c] := by
  rw [trimMarks]
  split_ifs with hlong
  · have hmark : isTrailingMark c = false := by
      rw [← Bool.not_eq_true]
      intro hmark
      have hmarks : ∀ d ∈ ".,:/'".toList, utf8Length [d] = 1 := by decide
      rw [hmarks c (List.contains_iff_mem.mp hmark)] at hlong
      exact absurd hlong (lt_irrefl 1)
    simp [trimEndWhile, hmark]
  · rfl

/-- What begins a longer token is no mark, so the limit on the length makes no difference to it. -/
theorem trimMarks_start (hc : startsToken c) :
    trimMarks (c :: cs) = c :: trimEndWhile isTrailingMark cs := by
  have hstop := not_isTrailingMark_of_startsToken hc
  cases cs with
  | nil => exact trimMarks_single c
  | cons d cs => rw [trimMarks, if_pos (utf8Length_cons_cons c d cs), trimEndWhile_cons hstop]

theorem tokenize_start (hc : startsToken c) : tokenize (c :: rest) =
    trimMarks (c :: rest.takeWhile continuesToken) :: tokenize (rest.dropWhile continuesToken) := by
  simp [tokenize, scan_start hc, trimMarks_start hc]

theorem tokenize_other (hstart : startsToken c = false) (hc : isSpace c = false) :
    tokenize (c :: rest) = [c] :: tokenize rest := by
  simp [tokenize, scan_other hstart hc, trimMarks_single]

/-! ### The parts of a word -/

/-- What stands before the first longer token of a word. -/
def lead (w : List Char) : List Char := w.takeWhile (!startsToken ·)

/-- The first longer token of a word, before its end is trimmed. -/
def body (w : List Char) : List Char := (w.dropWhile (!startsToken ·)).takeWhile continuesToken

/-- What stands after it. -/
def tail (w : List Char) : List Char := (w.dropWhile (!startsToken ·)).dropWhile continuesToken

theorem startsToken_of_head_dropWhile (w : List Char) :
    ∀ c ∈ (w.dropWhile (!startsToken ·)).head?, startsToken c := by
  intro c hc
  have hfirst := List.head?_dropWhile_not (fun c => !startsToken c) w
  rw [hc] at hfirst
  simpa using hfirst

theorem tokenize_of_marks (hmarks : ∀ c ∈ cs, startsToken c = false)
    (hword : ∀ c ∈ cs, isSpace c = false) : tokenize cs = cs.map ([·]) := by
  induction cs with
  | nil => simp [tokenize]
  | cons c cs ih =>
      rw [List.forall_mem_cons] at hmarks hword
      rw [tokenize_other hmarks.1 hword.1, ih hmarks.2 hword.2, List.map_cons]

/-- A token of a word is one of its characters before or after its first longer token, or is that
token, if no other one follows. -/
theorem mem_tokenize (hword : ∀ c ∈ w, isSpace c = false)
    (htail : ∀ c ∈ tail w, startsToken c = false) (ht : t ∈ tokenize w) :
    (∃ c ∈ lead w ++ tail w, t = [c]) ∨ t = trimMarks (body w) := by
  induction w with
  | nil => simp [tokenize] at ht
  | cons c rest ih =>
      rw [List.forall_mem_cons] at hword
      cases hc : startsToken c with
      | true =>
          have hlead : lead (c :: rest) = [] := by simp [lead, hc]
          have hbody : body (c :: rest) = c :: rest.takeWhile continuesToken := by
            simp [body, hc, continuesToken_of_startsToken hc]
          have hrest : tail (c :: rest) = rest.dropWhile continuesToken := by
            simp [tail, hc, continuesToken_of_startsToken hc]
          rw [hrest] at htail
          have hblank : ∀ d ∈ rest.dropWhile continuesToken, isSpace d = false :=
            fun d hd => hword.2 d ((List.dropWhile_sublist _).subset hd)
          rw [tokenize_start hc, List.mem_cons, tokenize_of_marks htail hblank] at ht
          rw [hlead, hbody, hrest]
          rcases ht with rfl | ht
          · exact .inr rfl
          · obtain ⟨d, hd, rfl⟩ := List.mem_map.mp ht
            exact .inl ⟨d, hd, rfl⟩
      | false =>
          have hlead : lead (c :: rest) = c :: lead rest := by simp [lead, hc]
          have hbody : body (c :: rest) = body rest := by simp [body, hc]
          have hrest : tail (c :: rest) = tail rest := by simp [tail, hc]
          rw [hrest] at htail
          rw [tokenize_other hc hword.1, List.mem_cons] at ht
          rw [hlead, hbody, hrest]
          rcases ht with rfl | ht
          · exact .inl ⟨c, by simp, rfl⟩
          · rcases ih hword.2 htail ht with ⟨d, hd, rfl⟩ | rfl
            · exact .inl ⟨d, List.mem_cons_of_mem c hd, rfl⟩
            · exact .inr rfl

end Token

/-! ### Nouns -/

variable {token : List Char} {prev : Option Tag} {next : Option String}

/-- A noun holds a letter or a digit and is no detail. -/
theorem Tag.noun_of_ofToken
    (htag : ofToken token prev next = .noun ∨ ofToken token prev next = .properNoun) :
    token.any isAlphanumeric ∧ Entity.recognised token (lowerChars token) = false := by
  rw [ofToken] at htag
  by_cases halphanumeric : token.any isAlphanumeric
  · cases hrecognised : Entity.recognised token (lowerChars token) with
    | true => simp [halphanumeric, hrecognised] at htag
    | false => exact ⟨halphanumeric, rfl⟩
  · simp [halphanumeric] at htag

theorem mem_tagTokens {tokens : List (List Char)} {t : TaggedToken}
    (ht : t ∈ tagTokens prev tokens) : ∃ token ∈ tokens, ∃ prev next,
      t = ⟨.ofList token, Tag.ofToken token prev next⟩ := by
  induction tokens generalizing prev with
  | nil => cases ht
  | cons token tokens ih =>
      rcases List.mem_cons.mp ht with rfl | ht
      · exact ⟨token, List.mem_cons_self, _, _, rfl⟩
      · obtain ⟨token', htoken', hrest⟩ := ih ht
        exact ⟨token', List.mem_cons_of_mem token htoken', hrest⟩

theorem mem_extractNouns {text noun : String} (hnoun : noun ∈ extractNouns text) :
    ∃ w ∈ words text, ∃ token ∈ Token.tokenize w.toList, noun = lowercase (.ofList token) ∧
      token.any isAlphanumeric ∧ Entity.recognised token (lowerChars token) = false := by
  rw [extractNouns, List.mem_eraseDups] at hnoun
  obtain ⟨t, ht, rfl⟩ := List.mem_map.mp hnoun
  obtain ⟨ht, htag⟩ := List.mem_filter.mp ht
  obtain ⟨token, htoken, prev, next, rfl⟩ := mem_tagTokens ht
  rw [Token.tokenize_eq_flatMap] at htoken
  obtain ⟨w, hw, htoken⟩ := List.mem_flatMap.mp htoken
  refine ⟨.ofList w, List.mem_map_of_mem hw, token, by simpa using htoken, rfl, ?_⟩
  exact Tag.noun_of_ofToken (by simpa using htag)

/-- Only the words of a text matter for its nouns. -/
theorem extractNouns_congr {p q : String} (hwords : words p = words q) :
    extractNouns p = extractNouns q := by
  have hchars : wordChars p.toList = wordChars q.toList := by
    rw [← toList_words, hwords, toList_words]
  rw [extractNouns, extractNouns, tagText, tagText, Token.tokenize_eq_flatMap, hchars,
    ← Token.tokenize_eq_flatMap]

end HybridSearch.Language
