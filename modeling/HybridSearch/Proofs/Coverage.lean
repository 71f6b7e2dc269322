import HybridSearch.Proofs.Tokens

/-!
# What the tokens of a text cover

The tokens of a text hold its characters in order, except for the blanks between them and for the
marks that end a longer token. A longer token goes on for as long as there are word characters, and
no word character is a mark. So each run of word characters stands whole in one token, and none of
them is lost, doubled or moved.
-/

namespace HybridSearch

open Text

/-- A list is another one with some of the characters of a class left out. -/
inductive LeavesOut (p : Char → Bool) : List Char → List Char → Prop
  | nil : LeavesOut p [] []
  | keep {kept cs : List Char} (c : Char) (h : LeavesOut p kept cs) :
      LeavesOut p (c :: kept) (c :: cs)
  | drop {kept cs : List Char} {c : Char} (hc : p c) (h : LeavesOut p kept cs) :
      LeavesOut p kept (c :: cs)

namespace LeavesOut

variable {p : Char → Bool} {kept cs marks more rest : List Char}

theorem refl (cs : List Char) : LeavesOut p cs cs := by
  induction cs with
  | nil => exact .nil
  | cons c cs ih => exact .keep c ih

theorem append (h : LeavesOut p kept cs) (hrest : LeavesOut p more rest) :
    LeavesOut p (kept ++ more) (cs ++ rest) := by
  induction h with
  | nil => exact hrest
  | keep c _ ih => exact .keep c ih
  | drop hc _ ih => exact .drop hc ih

theorem nil_of_forall (hmarks : ∀ c ∈ marks, p c) : LeavesOut p [] marks := by
  induction marks with
  | nil => exact .nil
  | cons c marks ih =>
      rw [List.forall_mem_cons] at hmarks
      exact .drop hmarks.1 (ih hmarks.2)

theorem subset (h : LeavesOut p kept cs) : kept ⊆ cs := by
  induction h with
  | nil => exact List.Subset.refl []
  | keep c _ ih => exact List.cons_subset_cons c ih
  | drop _ _ ih => exact List.subset_cons_of_subset _ ih

theorem trimEndWhile (p : Char → Bool) (cs : List Char) :
    LeavesOut p (Text.trimEndWhile p cs) cs := by
  obtain ⟨marks, hsplit, hmarks⟩ := exists_trimEndWhile p cs
  have hall := (refl (p := p) (Text.trimEndWhile p cs)).append (nil_of_forall hmarks)
  rwa [List.append_nil, ← hsplit] at hall

end LeavesOut

namespace Language.Token

variable {c : Char} {cs run rest : List Char}

/-! ### Token by token -/

theorem tokenize_blank (hc : isSpace c) : tokenize (c :: rest) = tokenize rest := by
  rw [tokenize, scan_blank hc, tokenize]

theorem tokenize_longer (hc : startsToken c) (hrun : ∀ d ∈ run, continuesToken d)
    (hrest : ∀ d ∈ rest.head?, continuesToken d = false) :
    tokenize (c :: run ++ rest) = trimEndWhile isTrailingMark (c :: run) :: tokenize rest := by
  have htake : (run ++ rest).takeWhile continuesToken = run := by
    rw [takeWhile_append_of_stop hrest, List.takeWhile_eq_self_iff.mpr hrun]
  have hdrop : (run ++ rest).dropWhile continuesToken = rest := by
    rw [dropWhile_append_of_stop hrest, List.dropWhile_eq_nil_iff.mpr hrun, List.nil_append]
  rw [List.cons_append, tokenize_start hc, htake, hdrop, trimMarks_start hc,
    trimEndWhile_cons (not_isTrailingMark_of_startsToken hc)]

/-- A text is empty, or begins with a blank, with a token of one character, or with a longer token
that goes on as far as it can. -/
theorem tokenInduction {P : List Char → Prop} (nil : P [])
    (blank : ∀ c rest, isSpace c → P rest → P (c :: rest))
    (other : ∀ c rest, startsToken c = false → isSpace c = false → P rest → P (c :: rest))
    (longer : ∀ c run rest, startsToken c → (∀ d ∈ run, continuesToken d) →
      (∀ d ∈ rest.head?, continuesToken d = false) → P rest → P (c :: run ++ rest))
    (cs : List Char) : P cs := by
  induction cs using scan.induct with
  | case1 => exact nil
  | case2 c rest hc ih =>
      have hsplit : c :: rest
          = c :: rest.takeWhile continuesToken ++ rest.dropWhile continuesToken := by
        rw [List.cons_append, List.takeWhile_append_dropWhile]
      rw [hsplit]
      exact longer c _ _ hc (fun d hd => List.mem_takeWhile_imp hd)
        (fun d hd => not_of_mem_head?_dropWhile hd) ih
  | case3 c rest _ hspace ih => exact blank c rest hspace ih
  | case4 c rest hc hspace ih =>
      exact other c rest (Bool.eq_false_iff.mpr hc) (Bool.eq_false_iff.mpr hspace) ih

/-! ### The characters of the tokens -/

theorem filter_of_continues (hcs : ∀ c ∈ cs, continuesToken c) :
    cs.filter (!isSpace ·) = cs := by
  refine List.filter_eq_self.mpr fun c hc => ?_
  rw [not_isSpace_of_continuesToken (hcs c hc)]
  rfl

/-- Of the characters that are no blanks the tokens leave out marks alone. -/
theorem leavesOut_tokenize (cs : List Char) :
    LeavesOut isTrailingMark (tokenize cs).flatten (cs.filter (!isSpace ·)) := by
  induction cs using tokenInduction with
  | nil => simpa [tokenize] using LeavesOut.nil
  | blank c rest hspace ih =>
      rw [tokenize_blank hspace, List.filter_cons_of_neg (by simpa using hspace)]
      exact ih
  | other c rest hc hspace ih =>
      rw [tokenize_other hc hspace, List.filter_cons_of_pos (by simpa using hspace)]
      exact .keep c ih
  | longer c run rest hc hrun hrest ih =>
      have hall : ∀ d ∈ c :: run, continuesToken d :=
        List.forall_mem_cons.mpr ⟨continuesToken_of_startsToken hc, hrun⟩
      rw [tokenize_longer hc hrun hrest, List.flatten_cons, List.filter_append,
        filter_of_continues hall]
      exact (LeavesOut.trimEndWhile _ _).append ih

/-! ### The words of the tokens -/

theorem not_isWord_of_isTrailingMark (hc : isTrailingMark c) : isWord c = false := by
  have hmarks : ∀ d ∈ ".,:/'".toList, isWord d = false := by decide
  exact hmarks c (List.contains_iff_mem.mp hc)

theorem not_isWord_of_isSpace (hc : isSpace c) : isWord c = false := by
  rw [← Bool.not_eq_true]
  intro hword
  simp [not_isSpace_of_isWord hword] at hc

theorem not_isWord_of_startsToken (hc : startsToken c = false) : isWord c = false := by
  rw [startsToken, Bool.or_eq_false_iff] at hc
  exact hc.1

theorem not_isWord_of_continuesToken (hc : continuesToken c = false) : isWord c = false := by
  rw [continuesToken, Bool.or_eq_false_iff] at hc
  exact hc.1

/-- No word is cut when the marks are trimmed off a token. -/
theorem runs_trimEndWhile (cs : List Char) :
    runs isWord (trimEndWhile isTrailingMark cs) = runs isWord cs := by
  obtain ⟨marks, hsplit, hmarks⟩ := exists_trimEndWhile isTrailingMark cs
  have hnone : ∀ c ∈ marks, isWord c = false := fun c hc =>
    not_isWord_of_isTrailingMark (hmarks c hc)
  have hstop : ∀ c ∈ marks.head?, isWord c = false := fun c hc =>
    hnone c (List.mem_of_mem_head? hc)
  conv_rhs => rw [hsplit]
  rw [runs_append_of_stop hstop, runs_eq_nil_iff.mpr hnone, List.append_nil]

/-- The words in the tokens are the words in the text. -/
theorem flatMap_runs_tokenize (cs : List Char) :
    (tokenize cs).flatMap (runs isWord) = runs isWord cs := by
  induction cs using tokenInduction with
  | nil => simp [tokenize]
  | blank c rest hspace ih =>
      rw [tokenize_blank hspace, ih, runs_cons_of_neg (not_isWord_of_isSpace hspace)]
  | other c rest hc hspace ih =>
      have hword := not_isWord_of_startsToken hc
      rw [tokenize_other hc hspace, List.flatMap_cons, ih, runs_cons_of_neg hword,
        runs_cons_of_neg hword, runs_nil, List.nil_append]
  | longer c run rest hc hrun hrest ih =>
      have hstop : ∀ d ∈ rest.head?, isWord d = false := fun d hd =>
        not_isWord_of_continuesToken (hrest d hd)
      rw [tokenize_longer hc hrun hrest, List.flatMap_cons, ih, runs_trimEndWhile,
        runs_append_of_stop hstop]

/-- A token holds something and no blank. -/
theorem isSolid_of_mem_tokenize {token : List Char} (htoken : token ∈ tokenize cs) :
    IsSolid token where
  some := by
    have hsome := (List.mem_filter.mp htoken).2
    simpa using hsome
  solid := by
    intro c hc
    have hkept := (leavesOut_tokenize cs).subset (List.mem_flatten_of_mem htoken hc)
    simpa using (List.mem_filter.mp hkept).2

/-- The tokens of a text, one after the other, are its characters other than blanks with nothing
but marks left out. No token is empty or holds a blank, and the words in the tokens are the words in
the text. -/
theorem tokenize_covers (cs : List Char) :
    LeavesOut isTrailingMark (tokenize cs).flatten (cs.filter (!isSpace ·)) ∧
    (∀ token ∈ tokenize cs, IsSolid token) ∧
    (tokenize cs).flatMap (runs isWord) = runs isWord cs :=
  ⟨leavesOut_tokenize cs, fun _ htoken => isSolid_of_mem_tokenize htoken,
    flatMap_runs_tokenize cs⟩

/-- A mark is left out at the end of a token only. -/
example : (tokenize "rent, (a.b.)".toList).map .ofList = ["rent", "(", "a.b", ")"] := by
  decide +kernel

end Language.Token

end HybridSearch
