import HybridSearch.Proofs.Lowercase
import HybridSearch.Proofs.Pattern
import HybridSearch.Proofs.Tokens

/-!
# Details among the words

A word that is a detail in full, such as an address or a phone number, is cut into tokens before its
tokens are compared with the patterns of details. What the first longer token of the word keeps is
mostly a detail again, and the marks around it are no words. The parentheses of a phone number, a
mark that cuts an address on the web, and an end that is trimmed down to the scheme are where this
fails.
-/

namespace HybridSearch.Language

open Text Pattern Token

/-! ### Runs -/

namespace Token

variable {a u t cs : List Char}

/-- What is one token in full, up to the marks at its end. -/
structure IsRun (u : List Char) : Prop where
  some : u ≠ []
  starts : ∀ c ∈ u.head?, startsToken c
  continues : ∀ c ∈ u, continuesToken c

/-- A run that stands alone between marks is the body of its word. -/
theorem parts_eq (ha : ∀ c ∈ a, startsToken c = false) (hu : IsRun u)
    (ht : ∀ c ∈ t.head?, continuesToken c = false) :
    lead (a ++ (u ++ t)) = a ∧ body (a ++ (u ++ t)) = u ∧ tail (a ++ (u ++ t)) = t := by
  obtain ⟨c, u, rfl⟩ := List.exists_cons_of_ne_nil hu.some
  have hc : startsToken c := hu.starts c rfl
  have hmarks : ∀ d ∈ a, (!startsToken d) = true := fun d hd => by rw [ha d hd]; rfl
  have hstart : (a ++ (c :: u ++ t)).dropWhile (!startsToken ·) = c :: u ++ t := by
    rw [List.dropWhile_append_of_pos hmarks, List.cons_append,
      List.dropWhile_cons_of_neg (by simp [hc])]
  have hstop : t.takeWhile continuesToken = [] ∧ t.dropWhile continuesToken = t := by
    cases t with
    | nil => exact ⟨rfl, rfl⟩
    | cons d t => simp [ht d rfl]
  refine ⟨?_, ?_, ?_⟩
  · rw [lead, List.takeWhile_append_of_pos hmarks, List.cons_append,
      List.takeWhile_cons_of_neg (by simp [hc]), List.append_nil]
  · rw [body, hstart, List.takeWhile_append_of_pos hu.continues, hstop.1, List.append_nil]
  · rw [tail, hstart, List.dropWhile_append_of_pos hu.continues, hstop.2]

theorem trimMarks_eq_self (hlast : ∀ c ∈ cs.getLast?, isTrailingMark c = false) :
    trimMarks cs = cs := by
  rw [trimMarks]
  split_ifs
  · exact trimEndWhile_eq_self hlast
  · rfl

theorem trimMarks_eq (hstart : ∀ c ∈ cs.head?, startsToken c) :
    trimMarks cs = trimEndWhile isTrailingMark cs := by
  cases cs with
  | nil => rfl
  | cons c cs =>
      have hc : startsToken c := hstart c rfl
      rw [trimMarks_start hc, trimEndWhile_cons (not_isTrailingMark_of_startsToken hc)]

end Token

namespace Entity

variable {c : Char} {a u t v : List Char} {p : Pattern}

/-- A text that is a detail in full, as it is written. -/
def IsDetailChars (v : List Char) : Prop := ∃ p ∈ patterns, Matches p v

/-- What an address on the web begins with, once the marks at the end of that are trimmed. -/
def schemes : List (List Char) := ["http", "https", "www"].map String.toList

/-- What the tokens of a detail keep of it. -/
structure Keeps (v : List Char) : Prop where
  lead : ∀ c ∈ lead v, isAlphanumeric c = false
  body : IsDetailChars (trimMarks (body v)) ∨ trimMarks (body v) ∈ schemes

theorem keeps_of_parts (ha : ∀ c ∈ a, startsToken c = false ∧ isAlphanumeric c = false)
    (hu : IsRun u) (ht : ∀ c ∈ t.head?, continuesToken c = false)
    (hkept : IsDetailChars (trimMarks u) ∨ trimMarks u ∈ schemes) : Keeps (a ++ (u ++ t)) := by
  obtain ⟨hlead, hbody, -⟩ := parts_eq (fun c hc => (ha c hc).1) hu ht
  refine ⟨?_, ?_⟩
  · rw [hlead]
    exact fun c hc => (ha c hc).2
  · rwa [hbody]

/-- A detail that is a run keeps what is left of it once its end is trimmed. -/
theorem keeps_of_isRun (hu : IsRun u) (hkept : IsDetailChars (trimMarks u)) : Keeps u := by
  have hall := keeps_of_parts (a := []) (t := []) (by simp) hu (by simp) (.inl hkept)
  rwa [List.nil_append, List.append_nil] at hall

/-! ### Patterns whose texts hold together -/

theorem startsToken_of_isDecimal (hc : isDecimal c) : startsToken c := by
  simp [startsToken, isWord_of_isDecimal hc]

theorem continuesToken_of_isDecimal (hc : isDecimal c) : continuesToken c :=
  continuesToken_of_startsToken (startsToken_of_isDecimal hc)

theorem not_isTrailingMark_of_isDecimal (hc : isDecimal c) : isTrailingMark c = false :=
  not_isTrailingMark_of_startsToken (startsToken_of_isDecimal hc)

/-- A pattern whose texts hold no character that ends a token, and end in no mark. -/
structure IsFirm (p : Pattern) : Prop where
  some : p.nullable = false
  continues : ∀ q ∈ p.classes, ∀ c, q c → continuesToken c
  ends : ∀ q ∈ p.lasts, ∀ c, q c → isTrailingMark c = false

theorem IsFirm.isRun (hp : IsFirm p) (hv : Matches p v) (hstart : ∀ c ∈ v.head?, startsToken c) :
    IsRun v where
  some := by
    rintro rfl
    rw [← nullable_iff, hp.some] at hv
    exact absurd hv Bool.false_ne_true
  starts := hstart
  continues := by
    intro c hc
    obtain ⟨q, hq, hqc⟩ := exists_class_of_mem hv hc
    exact hp.continues q hq c hqc

theorem IsFirm.trimMarks_eq_self (hp : IsFirm p) (hv : Matches p v) : trimMarks v = v := by
  refine Token.trimMarks_eq_self fun c hc => ?_
  obtain ⟨q, hq, hqc⟩ := exists_class_of_getLast hv hc
  exact hp.ends q hq c hqc

theorem startsToken_of_firsts (hfirsts : p.firsts = [isDecimal]) (hv : Matches p v) :
    ∀ c ∈ v.head?, startsToken c := by
  intro c hc
  obtain ⟨q, hq, hqc⟩ := exists_class_of_head hv hc
  rw [hfirsts, List.mem_singleton] at hq
  exact startsToken_of_isDecimal (hq ▸ hqc)

/-- A firm pattern of details that begin with a digit keeps them as they are. -/
theorem keeps_of_isFirm (hmem : p ∈ patterns) (hp : IsFirm p) (hfirsts : p.firsts = [isDecimal])
    (hv : Matches p v) : Keeps v :=
  keeps_of_isRun (hp.isRun hv (startsToken_of_firsts hfirsts hv))
    ⟨p, hmem, by rwa [hp.trimMarks_eq_self hv]⟩

theorem isFirm_time : IsFirm time := by
  have hmarks : continuesToken ':' ∧ continuesToken 'a' ∧ continuesToken 'p' ∧
      continuesToken 'm' := by decide
  have hlast : isTrailingMark 'm' = false := by decide
  refine ⟨rfl, ?_, ?_⟩
  · simp +contextual [time, all, any, between, repeated, upTo, Pattern.optional, literal, char,
      decimal, classes, continuesToken_of_isDecimal, hmarks]
  · simp [time, all, any, Pattern.optional, literal, char, lasts, nullable, hlast]

theorem isFirm_date : IsFirm date := by
  have hmarks : continuesToken '/' ∧ continuesToken '-' := by decide
  refine ⟨rfl, ?_, ?_⟩
  · simp +contextual [date, all, between, repeated, upTo, Pattern.optional, decimal, classes,
      continuesToken_of_isDecimal, hmarks]
  · simp +contextual [date, all, between, repeated, upTo, Pattern.optional, decimal, lasts,
      nullable, not_isTrailingMark_of_isDecimal]

theorem isFirm_ordinal : IsFirm ordinal := by
  have hmarks : continuesToken 's' ∧ continuesToken 't' ∧ continuesToken 'n' ∧
      continuesToken 'd' ∧ continuesToken 'r' ∧ continuesToken 'h' := by decide
  have hlasts : isTrailingMark 't' = false ∧ isTrailingMark 'd' = false ∧
      isTrailingMark 'h' = false := by decide
  refine ⟨rfl, ?_, ?_⟩
  · simp +contextual [ordinal, all, any, plus, literal, char, decimal, classes,
      continuesToken_of_isDecimal, hmarks]
  · simp [ordinal, all, any, literal, char, lasts, nullable, hlasts]

theorem isFirm_email : IsFirm email := by
  have hmarks : continuesToken '@' ∧ continuesToken '.' ∧ continuesToken '+' ∧
      continuesToken '-' := by decide
  have hword {c : Char} (hc : isWord c) : continuesToken c := by simp [continuesToken, hc]
  refine ⟨rfl, ?_, ?_⟩
  · simp +contextual [email, all, plus, char, classes, or_imp, hmarks, hword]
  · intro q hq c hc
    have hlast : isWord c ∨ c = '-' := by
      simp [email, all, plus, lasts, nullable] at hq
      simpa [hq] using hc
    rcases hlast with hword | rfl
    · exact not_isTrailingMark_of_startsToken (by simp [startsToken, hword])
    · decide

/-! ### Phone numbers -/

/-- The digits of a phone number after the first three. -/
def lastDigits : Pattern :=
  let separator := Pattern.optional (one fun c => c = '-' || c = '.')
  all [separator, repeated decimal 3, separator, repeated decimal 4]

theorem isFirm_phoneDigits : IsFirm (seq (repeated decimal 3) lastDigits) := by
  have hmarks : continuesToken '-' ∧ continuesToken '.' := by decide
  refine ⟨rfl, ?_, ?_⟩
  · simp +contextual [lastDigits, all, repeated, Pattern.optional, decimal, classes,
      continuesToken_of_isDecimal, hmarks]
  · simp +contextual [lastDigits, all, repeated, Pattern.optional, decimal, lasts,
      nullable, not_isTrailingMark_of_isDecimal]

theorem matches_phone_iff : Matches phone v ↔ ∃ opening digits closing rest,
    (opening = ['('] ∨ opening = []) ∧ Matches (repeated decimal 3) digits ∧
      (closing = [')'] ∨ closing = []) ∧ Matches lastDigits rest ∧
        v = opening ++ (digits ++ (closing ++ rest)) := by
  have hparts : phone = seq (Pattern.optional (char '(')) (seq (repeated decimal 3)
      (seq (Pattern.optional (char ')')) lastDigits)) := rfl
  simp only [hparts, matches_seq_iff, matches_optional_iff, matches_char_iff]
  constructor
  · rintro ⟨opening, _, hopening,
      ⟨digits, _, hdigits, ⟨closing, rest, hclosing, hrest, rfl⟩, rfl⟩, rfl⟩
    exact ⟨opening, digits, closing, rest, hopening, hdigits, hclosing, hrest, rfl⟩
  · rintro ⟨opening, digits, closing, rest, hopening, hdigits, hclosing, hrest, rfl⟩
    exact ⟨opening, _, hopening,
      ⟨digits, _, hdigits, ⟨closing, rest, hclosing, hrest, rfl⟩, rfl⟩, rfl⟩

theorem exists_start_of_lastDigits {rest : List Char} (hrest : Matches lastDigits rest) :
    ∃ c ∈ rest, startsToken c := by
  have hsome : rest ≠ [] := by
    rintro rfl
    exact absurd (nullable_iff.mpr hrest) (by decide)
  refine ⟨rest.getLast hsome, List.getLast_mem hsome, ?_⟩
  obtain ⟨q, hq, hqc⟩ := exists_class_of_getLast hrest (List.getLast?_eq_some_getLast hsome)
  simp [lastDigits, all, repeated, decimal, lasts, nullable] at hq
  exact startsToken_of_isDecimal (hq ▸ hqc)

/-- A phone number without a closing parenthesis is kept. -/
theorem keeps_of_phone (hv : Matches phone v) (htail : ∀ c ∈ tail v, startsToken c = false) :
    Keeps v := by
  obtain ⟨opening, digits, closing, rest, hopening, hdigits, hclosing, hrest, rfl⟩ :=
    matches_phone_iff.mp hv
  have hmarks : ∀ c ∈ opening, startsToken c = false ∧ isAlphanumeric c = false := by
    rcases hopening with rfl | rfl
    · decide +kernel
    · simp
  rcases hclosing with rfl | rfl
  · -- The parenthesis ends the token, and the digits after it begin another one.
    have hfirm : IsFirm (repeated decimal 3) := by
      refine ⟨rfl, ?_, ?_⟩
      · simp +contextual [repeated, decimal, classes, continuesToken_of_isDecimal]
      · simp +contextual [repeated, decimal, lasts, nullable, not_isTrailingMark_of_isDecimal]
    have hclosing : continuesToken ')' = false := by decide
    obtain ⟨-, -, hparts⟩ := parts_eq (t := [')'] ++ rest) (fun c hc => (hmarks c hc).1)
      (hfirm.isRun hdigits (startsToken_of_firsts rfl hdigits)) (by simp [hclosing])
    obtain ⟨c, hc, hstart⟩ := exists_start_of_lastDigits hrest
    rw [hparts] at htail
    have hstop := htail c (List.mem_append_right _ hc)
    rw [hstart] at hstop
    exact absurd hstop (by decide)
  · have hdigits' : Matches (seq (repeated decimal 3) lastDigits) (digits ++ rest) :=
      .seq hdigits hrest
    have hphone : Matches phone (digits ++ rest) :=
      matches_phone_iff.mpr ⟨[], digits, [], rest, .inr rfl, hdigits, .inr rfl, hrest, rfl⟩
    have hkept := keeps_of_parts (t := []) hmarks
      (isFirm_phoneDigits.isRun hdigits' (startsToken_of_firsts rfl hdigits')) (by simp)
      (.inl ⟨phone, by simp [patterns], by rwa [isFirm_phoneDigits.trimMarks_eq_self hdigits']⟩)
    simpa using hkept

/-! ### Sums of money -/

/-- What may follow the first digit of a sum, up to its fraction. -/
def isSumChar (c : Char) : Bool := isDecimal c || c = ','

def fractionalSum : Pattern :=
  all [char '$', decimal, star (one isSumChar), char '.', plus decimal]

theorem continuesToken_of_isSumChar (hc : isSumChar c) : continuesToken c := by
  simp only [isSumChar, Bool.or_eq_true, decide_eq_true_eq] at hc
  rcases hc with hdecimal | rfl
  · exact continuesToken_of_isDecimal hdecimal
  · decide

theorem isFirm_fractionalSum : IsFirm fractionalSum := by
  have hmarks : continuesToken '$' ∧ continuesToken '.' := by decide
  refine ⟨rfl, ?_, ?_⟩
  · simp +contextual [fractionalSum, all, plus, char, decimal, classes,
      continuesToken_of_isSumChar, continuesToken_of_isDecimal, hmarks]
  · simp +contextual [fractionalSum, all, plus, decimal, lasts, nullable,
      not_isTrailingMark_of_isDecimal]

/-- A sum has a fraction, or it may end in commas. -/
theorem fractionalSum_or_of_money (hv : Matches money v) : Matches fractionalSum v ∨
    ∃ d digits, isDecimal d ∧ (∀ c ∈ digits, isSumChar c) ∧ v = '$' :: d :: digits := by
  obtain ⟨_, _, hsign, hunsigned, rfl⟩ := matches_seq_iff.mp hv
  obtain ⟨_, _, hfirst, hrest, rfl⟩ := matches_seq_iff.mp hunsigned
  obtain ⟨digits, _, hdigits, hrest', rfl⟩ := matches_seq_iff.mp hrest
  obtain ⟨fraction, _, hfraction, hend, rfl⟩ := matches_seq_iff.mp hrest'
  obtain rfl := matches_empty_iff.mp hend
  rcases matches_optional_iff.mp hfraction with hfraction | rfl
  · left
    obtain ⟨_, _, hpoint, hcents, rfl⟩ := matches_seq_iff.mp hfraction
    rw [List.append_assoc]
    exact .seq hsign (.seq hfirst (.seq hdigits (.seq hpoint (.seq hcents .empty))))
  · right
    obtain rfl := matches_char_iff.mp hsign
    obtain ⟨d, hd, rfl⟩ := matches_one_iff.mp hfirst
    exact ⟨d, digits, hd, matches_star_one_iff.mp hdigits, by simp⟩

theorem matches_money {d : Char} {digits : List Char} (hd : isDecimal d)
    (hdigits : ∀ c ∈ digits, isSumChar c) : Matches money ('$' :: d :: digits) := by
  have hfraction : Matches (seq (Pattern.optional (seq (char '.') (plus decimal))) empty) [] :=
    .seq (matches_optional_iff.mpr (.inr rfl)) .empty
  have hrest : Matches (seq (star (one isSumChar)) _) (digits ++ []) :=
    .seq (matches_star_one_iff.mpr hdigits) hfraction
  rw [List.append_nil] at hrest
  exact .seq (s := ['$']) (matches_char_iff.mpr rfl) (.seq (s := [d]) (.one hd) hrest)

theorem keeps_of_money (hv : Matches money v) : Keeps v := by
  have hsign (c : Char) (hc : c ∈ v.head?) : startsToken c := by
    obtain ⟨q, hq, hqc⟩ := exists_class_of_head hv hc
    simp [money, all, char, firsts, nullable] at hq
    obtain rfl : c = '$' := by simpa [hq] using hqc
    decide
  rcases fractionalSum_or_of_money hv with hfraction | ⟨d, digits, hd, hdigits, rfl⟩
  · exact keeps_of_isRun (isFirm_fractionalSum.isRun hfraction hsign)
      ⟨money, by simp [patterns], by rwa [isFirm_fractionalSum.trimMarks_eq_self hfraction]⟩
  · have htrim : trimMarks ('$' :: d :: digits)
        = '$' :: d :: trimEndWhile isTrailingMark digits := by
      rw [trimMarks_start (by decide), trimEndWhile_cons (not_isTrailingMark_of_isDecimal hd)]
    have hdetail : Matches money ('$' :: d :: trimEndWhile isTrailingMark digits) :=
      matches_money hd fun c hc => hdigits c (mem_of_mem_trimEndWhile hc)
    refine keeps_of_isRun ⟨List.cons_ne_nil _ _, hsign, ?_⟩
      ⟨money, by simp [patterns], by rwa [htrim]⟩
    intro c hc
    rcases List.mem_cons.mp hc with rfl | hc
    · decide
    · rcases List.mem_cons.mp hc with rfl | hc
      · exact continuesToken_of_isDecimal hd
      · exact continuesToken_of_isSumChar (hdigits c hc)

/-! ### Addresses -/

/-- What may stand before the sign in an address. -/
def isUserChar (c : Char) : Bool := isWord c || ".+-".toList.contains c

theorem not_isAlphanumeric_of_isUserChar (hc : isUserChar c) (hstart : startsToken c = false) :
    isAlphanumeric c = false := by
  have hmarks : ∀ d ∈ ".+-".toList, isAlphanumeric d = false := by decide +kernel
  rw [startsToken, Bool.or_eq_false_iff] at hstart
  rw [isUserChar, hstart.1, Bool.false_or] at hc
  exact hmarks c (List.contains_iff_mem.mp hc)

/-- An address is kept from where its first word begins, if that is before the sign. -/
theorem keeps_of_email (hv : Matches email v) (hlead : '@' ∉ lead v) : Keeps v := by
  obtain ⟨user, host, huser, hhost, rfl⟩ := matches_seq_iff.mp hv
  obtain ⟨-, huser⟩ : user ≠ [] ∧ ∀ c ∈ user, isUserChar c := matches_plus_one_iff.mp huser
  have hsplit : user = lead user ++ user.dropWhile (!startsToken ·) :=
    List.takeWhile_append_dropWhile.symm
  have hmarks : ∀ c ∈ lead user, startsToken c = false ∧ isAlphanumeric c = false := by
    intro c hc
    have hstart : startsToken c = false := by simpa using List.mem_takeWhile_imp hc
    have hmem : c ∈ user := (List.takeWhile_sublist _).subset hc
    exact ⟨hstart, not_isAlphanumeric_of_isUserChar (huser c hmem) hstart⟩
  have hword : user.dropWhile (!startsToken ·) ≠ [] := by
    -- Otherwise the sign would be among the marks.
    intro hnone
    obtain ⟨_, rest, hat, -, rfl⟩ := matches_seq_iff.mp hhost
    obtain rfl := matches_char_iff.mp hat
    apply hlead
    rw [lead, List.takeWhile_append_of_pos (List.dropWhile_eq_nil_iff.mp hnone),
      List.singleton_append, List.takeWhile_cons_of_pos (by decide)]
    simp
  have hrest : Matches email (user.dropWhile (!startsToken ·) ++ host) := by
    refine .seq (matches_plus_one_iff.mpr ⟨hword, fun c hc => ?_⟩) hhost
    exact huser c ((List.dropWhile_sublist _).subset hc)
  have hstart : ∀ c ∈ (user.dropWhile (!startsToken ·) ++ host).head?, startsToken c := by
    rw [List.head?_append_of_ne_nil _ hword]
    exact startsToken_of_head_dropWhile user
  have hkept := keeps_of_parts (t := []) hmarks (isFirm_email.isRun hrest hstart) (by simp)
    (.inl ⟨email, by simp [patterns], by rwa [isFirm_email.trimMarks_eq_self hrest]⟩)
  rw [List.append_nil, ← List.append_assoc, ← hsplit] at hkept
  exact hkept

/-- What an address on the web begins with. -/
def openings : List (List Char) := ["https://", "http://", "www."].map String.toList

theorem matches_opening_iff {t : List Char} : Matches (any [all [literal "http",
    Pattern.optional (char 's'), literal "://"], literal "www."]) t ↔ t ∈ openings := by
  simp [any, all, matches_literal_iff, openings, or_assoc]

theorem matches_url_iff : Matches url v ↔ ∃ opening ∈ openings, ∃ rest, rest ≠ [] ∧
    (∀ c ∈ rest, isSpace c = false) ∧ v = opening ++ rest := by
  constructor
  · intro hv
    obtain ⟨opening, _, hopening, hafter, rfl⟩ := matches_seq_iff.mp hv
    obtain ⟨rest, _, hrest, hend, rfl⟩ := matches_seq_iff.mp hafter
    obtain rfl := matches_empty_iff.mp hend
    obtain ⟨hsome, hall⟩ := matches_plus_one_iff.mp hrest
    exact ⟨opening, matches_opening_iff.mp hopening, rest, hsome, by simpa using hall, by simp⟩
  · rintro ⟨opening, hopening, rest, hsome, hall, rfl⟩
    have hrest : Matches (seq (plus (one fun c => !isSpace c)) empty) (rest ++ []) :=
      .seq (matches_plus_one_iff.mpr ⟨hsome, by simpa using hall⟩) .empty
    rw [List.append_nil] at hrest
    exact .seq (matches_opening_iff.mpr hopening) hrest

theorem keeps_of_url (hv : Matches url v) : Keeps v := by
  obtain ⟨opening, hopening, rest, hsome, hrest, rfl⟩ := matches_url_iff.mp hv
  have hopenings : ∀ o ∈ openings, (∀ c ∈ o.head?, startsToken c) ∧ (∀ c ∈ o, continuesToken c) ∧
      o ≠ [] ∧ trimEndWhile isTrailingMark o ∈ schemes := by
    decide +kernel
  obtain ⟨hstart, hcontinues, hopen, hscheme⟩ := hopenings opening hopening
  have hrun : IsRun (opening ++ rest.takeWhile continuesToken) := by
    refine ⟨List.append_ne_nil_of_left_ne_nil hopen _, ?_, ?_⟩
    · rwa [List.head?_append_of_ne_nil _ hopen]
    · intro c hc
      rcases List.mem_append.mp hc with hc | hc
      · exact hcontinues c hc
      · exact List.mem_takeWhile_imp hc
  have hkept : IsDetailChars (trimMarks (opening ++ rest.takeWhile continuesToken)) ∨
      trimMarks (opening ++ rest.takeWhile continuesToken) ∈ schemes := by
    rw [trimMarks_eq hrun.starts, trimEndWhile_append]
    split_ifs with hnone
    · exact .inr hscheme
    · left
      refine ⟨url, by simp [patterns], matches_url_iff.mpr ⟨opening, hopening, _, hnone, ?_, rfl⟩⟩
      intro c hc
      exact hrest c ((List.takeWhile_sublist _).subset (mem_of_mem_trimEndWhile hc))
  have hstop : ∀ c ∈ (rest.dropWhile continuesToken).head?, continuesToken c = false := by
    intro c hc
    have hfirst := List.head?_dropWhile_not continuesToken rest
    rw [hc] at hfirst
    simpa using hfirst
  have hall := keeps_of_parts (a := []) (by simp) hrun hstop hkept
  rwa [List.nil_append, List.append_assoc, List.takeWhile_append_dropWhile] at hall

/-- The first longer token of a detail is a detail again or a scheme, if no more tokens follow. -/
theorem keeps_of_isDetailChars (hv : IsDetailChars v) (hlead : '@' ∉ lead v)
    (htail : ∀ c ∈ tail v, startsToken c = false) : Keeps v := by
  obtain ⟨p, hp, hmatch⟩ := hv
  have hp' := hp
  simp only [patterns, List.mem_cons, List.not_mem_nil, or_false] at hp'
  rcases hp' with rfl | rfl | rfl | rfl | rfl | rfl | rfl
  · exact keeps_of_email hmatch hlead
  · exact keeps_of_url hmatch
  · exact keeps_of_phone hmatch htail
  · exact keeps_of_isFirm hp isFirm_time rfl hmatch
  · exact keeps_of_isFirm hp isFirm_date rfl hmatch
  · exact keeps_of_isFirm hp isFirm_ordinal rfl hmatch
  · exact keeps_of_money hmatch

end Entity

/-! ### Details in lowercase -/

section

variable {c : Char} {cs w : List Char}

theorem startsToken_of_mem_foldChar (c : Char) : ∀ d ∈ foldChar c, startsToken d = startsToken c :=
  fun _ => eq_of_mem_foldChar (b := true) fun c hc => by simp [startsToken, hc]

theorem continuesToken_of_mem_foldChar (c : Char) :
    ∀ d ∈ foldChar c, continuesToken d = continuesToken c :=
  fun _ => eq_of_mem_foldChar (b := true) fun c hc => by simp [continuesToken, hc]

theorem isTrailingMark_of_mem_foldChar (c : Char) :
    ∀ d ∈ foldChar c, isTrailingMark d = isTrailingMark c :=
  fun _ => eq_of_mem_foldChar (b := false)
    fun c hc => not_isTrailingMark_of_startsToken (by simp [startsToken, hc])

theorem dropWhile_start_flatMap (w : List Char) : (w.flatMap foldChar).dropWhile (!startsToken ·)
    = (w.dropWhile (!startsToken ·)).flatMap foldChar :=
  dropWhile_flatMap foldChar_ne_nil (fun c d hd => by rw [startsToken_of_mem_foldChar c d hd]) w

theorem lead_flatMap (w : List Char) : lead (w.flatMap foldChar) = (lead w).flatMap foldChar :=
  takeWhile_flatMap foldChar_ne_nil (fun c d hd => by rw [startsToken_of_mem_foldChar c d hd]) w

theorem body_flatMap (w : List Char) : body (w.flatMap foldChar) = (body w).flatMap foldChar := by
  rw [body, dropWhile_start_flatMap,
    takeWhile_flatMap foldChar_ne_nil continuesToken_of_mem_foldChar]
  rfl

theorem tail_flatMap (w : List Char) : tail (w.flatMap foldChar) = (tail w).flatMap foldChar := by
  rw [tail, dropWhile_start_flatMap,
    dropWhile_flatMap foldChar_ne_nil continuesToken_of_mem_foldChar]
  rfl

theorem startsToken_of_head_body : ∀ c ∈ (body w).head?, startsToken c := by
  intro c hc
  apply startsToken_of_head_dropWhile w
  cases hrest : w.dropWhile (!startsToken ·) with
  | nil => simp [body, hrest] at hc
  | cons d rest =>
      rw [body, hrest, List.takeWhile_cons] at hc
      split_ifs at hc
      · exact hc
      · cases hc

theorem trimMarks_body_flatMap (w : List Char) :
    trimMarks (body (w.flatMap foldChar)) = (trimMarks (body w)).flatMap foldChar := by
  rw [trimMarks_eq startsToken_of_head_body, trimMarks_eq startsToken_of_head_body, body_flatMap,
    trimEndWhile_flatMap foldChar_ne_nil isTrailingMark_of_mem_foldChar]

theorem foldChar_of_mem_lead (hc : c ∈ lead w) : foldChar c = [c] := by
  rcases foldChar_cases c with hsame | ⟨hword, -⟩
  · exact hsame
  · have hstart : startsToken c = false := by simpa using List.mem_takeWhile_imp hc
    simp [startsToken, hword] at hstart

end

namespace Entity

variable {v w t : List Char}

/-- No pattern of details tells the one sigma from the other. -/
theorem isDetailChars_map_mergeSigma : IsDetailChars (v.map mergeSigma) ↔ IsDetailChars v := by
  have hsigma : ∀ p ∈ patterns, ∀ q ∈ p.classes, q 'σ' = q 'ς' := by decide +kernel
  have hmerge : ∀ p ∈ patterns, ∀ q ∈ p.classes, ∀ c, q (mergeSigma c) = q c := by
    intro p hp q hq c
    rw [mergeSigma]
    split_ifs with hc
    · rw [hc, hsigma p hp q hq]
    · rfl
  refine exists_congr fun p => and_congr_right fun hp => ?_
  rw [← accepts_iff, ← accepts_iff, accepts_map (hmerge p hp)]

theorem recognised_of_isDetailChars {lower : List Char}
    (hdetail : IsDetailChars t ∨ IsDetailChars lower) : recognised t lower := by
  have hany : patterns.any (fun p => p.accepts t || p.accepts lower) := by
    rw [List.any_eq_true]
    rcases hdetail with ⟨p, hp, hmatch⟩ | ⟨p, hp, hmatch⟩
    · exact ⟨p, hp, by simp [accepts_iff.mpr hmatch]⟩
    · exact ⟨p, hp, by simp [accepts_iff.mpr hmatch]⟩
  simp [recognised, hany]

theorem mem_schemes_of_map_mergeSigma (hv : v.map mergeSigma ∈ schemes) : v ∈ schemes := by
  have hplain : ∀ s ∈ schemes, 'σ' ∉ s := by decide +kernel
  have hsame : v.map mergeSigma = v := by
    refine (List.map_congr_left fun c hc => ?_).trans (List.map_id v)
    have hmem : mergeSigma c ∈ v.map mergeSigma := List.mem_map_of_mem hc
    by_cases hsigma : c = 'ς'
    · subst hsigma
      exact absurd hmem (hplain _ hv)
    · exact if_neg hsigma
  rwa [hsame] at hv

/-- A word whose letters and digits stand in one token that is more than a scheme. -/
structure IsWhole (w : List Char) : Prop where
  lead : '@' ∉ lead w
  tail : ∀ c ∈ tail w, startsToken c = false ∧ isAlphanumeric c = false
  named : lowerChars (trimMarks (body w)) ∉ schemes

theorem keeps_of_lower (hwhole : IsWhole w) (hdetail : IsDetailChars (lowerChars w)) :
    (∀ c ∈ lead w, isAlphanumeric c = false) ∧ IsDetailChars (lowerChars (trimMarks (body w))) := by
  have hfold : IsDetailChars (w.flatMap foldChar) := by
    rwa [← map_mergeSigma_lowerAfter [], isDetailChars_map_mergeSigma]
  have hlead : '@' ∉ lead (w.flatMap foldChar) := by
    rw [lead_flatMap, List.mem_flatMap]
    rintro ⟨c, hc, hat⟩
    rw [foldChar_of_mem_lead hc, List.mem_singleton] at hat
    exact hwhole.lead (hat ▸ hc)
  have htail : ∀ d ∈ tail (w.flatMap foldChar), startsToken d = false := by
    intro d hd
    rw [tail_flatMap, List.mem_flatMap] at hd
    obtain ⟨c, hc, hd⟩ := hd
    rw [startsToken_of_mem_foldChar c d hd, (hwhole.tail c hc).1]
  obtain ⟨hmarks, hbody⟩ := keeps_of_isDetailChars hfold hlead htail
  refine ⟨fun c hc => hmarks c ?_, ?_⟩
  · rw [lead_flatMap, List.mem_flatMap]
    exact ⟨c, hc, by rw [foldChar_of_mem_lead hc]; exact List.mem_singleton_self c⟩
  · rw [trimMarks_body_flatMap, ← map_mergeSigma_lowerAfter []] at hbody
    rcases hbody with hbody | hscheme
    · exact isDetailChars_map_mergeSigma.mp hbody
    · exact absurd (mem_schemes_of_map_mergeSigma hscheme) hwhole.named

theorem keeps_of_written (hwhole : IsWhole w) (hdetail : IsDetailChars w) :
    (∀ c ∈ lead w, isAlphanumeric c = false) ∧ IsDetailChars (trimMarks (body w)) := by
  obtain ⟨hmarks, hbody⟩ :=
    keeps_of_isDetailChars hdetail hwhole.lead fun c hc => (hwhole.tail c hc).1
  refine ⟨hmarks, hbody.resolve_right fun hscheme => hwhole.named ?_⟩
  have hlower : ∀ s ∈ schemes, lowerChars s = s := by decide +kernel
  rwa [hlower _ hscheme]

/-- A token of a detail in one piece is a mark, or a detail itself. -/
theorem recognised_of_mem_tokenize (hword : ∀ c ∈ w, isSpace c = false) (hwhole : IsWhole w)
    (hdetail : IsDetailChars w ∨ IsDetailChars (lowerChars w)) (ht : t ∈ tokenize w) :
    t.any isAlphanumeric = false ∨ recognised t (lowerChars t) := by
  have hkept : (∀ c ∈ Token.lead w, isAlphanumeric c = false) ∧
      recognised (trimMarks (body w)) (lowerChars (trimMarks (body w))) := by
    rcases hdetail with hwritten | hlower
    · obtain ⟨hmarks, hbody⟩ := keeps_of_written hwhole hwritten
      exact ⟨hmarks, recognised_of_isDetailChars (.inl hbody)⟩
    · obtain ⟨hmarks, hbody⟩ := keeps_of_lower hwhole hlower
      exact ⟨hmarks, recognised_of_isDetailChars (.inr hbody)⟩
  rcases mem_tokenize hword (fun c hc => (hwhole.tail c hc).1) ht with ⟨c, hc, rfl⟩ | rfl
  · left
    have halphanumeric : isAlphanumeric c = false := by
      rcases List.mem_append.mp hc with hc | hc
      · exact hkept.1 c hc
      · exact (hwhole.tail c hc).2
    simp [halphanumeric]
  · exact .inr hkept.2

/-- A word that is a detail in full, as it is written or in lowercase. -/
def IsDetail (w : String) : Prop :=
  ∃ p ∈ patterns, p.accepts w.toList ∨ p.accepts (lowercase w).toList

instance : DecidablePred IsDetail := fun _ => inferInstanceAs (Decidable (∃ p ∈ patterns, _))

instance : DecidablePred IsWhole := fun w =>
  decidable_of_iff ('@' ∉ Token.lead w ∧
      (∀ c ∈ Token.tail w, startsToken c = false ∧ isAlphanumeric c = false) ∧
      lowerChars (trimMarks (body w)) ∉ schemes)
    ⟨fun h => ⟨h.1, h.2.1, h.2.2⟩, fun h => ⟨h.lead, h.tail, h.named⟩⟩

end Entity

/-- A text of details has no nouns if each of them keeps its letters and digits in one token that is
more than a scheme. A noun is cut out of a detail that does not. -/
theorem extractNouns_of_details {text : String} (hdetails : ∀ w ∈ words text, Entity.IsDetail w) :
    ((∀ w ∈ words text, Entity.IsWhole w.toList) → extractNouns text = []) ∧
      ∀ noun ∈ extractNouns text, ∃ w ∈ words text, ¬ Entity.IsWhole w.toList ∧
        ∃ t ∈ tokenize w.toList, noun = lowercase (.ofList t) := by
  have hcut : ∀ noun ∈ extractNouns text, ∃ w ∈ words text, ¬ Entity.IsWhole w.toList ∧
      ∃ t ∈ tokenize w.toList, noun = lowercase (.ofList t) := by
    intro noun hnoun
    obtain ⟨w, hw, t, ht, rfl, halphanumeric, hplain⟩ := mem_extractNouns hnoun
    refine ⟨w, hw, fun hwhole => ?_, t, ht, rfl⟩
    obtain ⟨p, hp, hmatch⟩ := hdetails w hw
    have hdetail : Entity.IsDetailChars w.toList ∨ Entity.IsDetailChars (lowerChars w.toList) := by
      rw [lowercase, String.toList_ofList] at hmatch
      exact hmatch.imp (fun h => ⟨p, hp, accepts_iff.mp h⟩) fun h => ⟨p, hp, accepts_iff.mp h⟩
    rcases Entity.recognised_of_mem_tokenize (isSolid_of_mem_words hw).solid hwhole hdetail ht with
      hmark | hrecognised
    · rw [hmark] at halphanumeric
      exact absurd halphanumeric Bool.false_ne_true
    · rw [hplain] at hrecognised
      exact absurd hrecognised Bool.false_ne_true
  refine ⟨fun hwhole => List.eq_nil_iff_forall_not_mem.mpr fun noun hnoun => ?_, hcut⟩
  obtain ⟨w, hw, hpieces, -⟩ := hcut noun hnoun
  exact hpieces (hwhole w hw)

theorem extractNouns_of_details_of_contacts :
    (∀ w ∈ words "(555-123-4567 HTTPS://Example.org! 10AM $1,200,", Entity.IsDetail w) ∧
      extractNouns "(555-123-4567 HTTPS://Example.org! 10AM $1,200," = [] := by
  have hdetails : ∀ w ∈ words "(555-123-4567 HTTPS://Example.org! 10AM $1,200,",
      Entity.IsDetail w := by
    decide +kernel
  exact ⟨hdetails, (extractNouns_of_details hdetails).1 (by decide +kernel)⟩

/-- The digits after the parentheses of a phone number are taken for a noun. -/
theorem exists_noun_of_details : ∃ text, (∀ w ∈ words text, Entity.IsDetail w) ∧
    extractNouns text = ["123-4567"] := by
  refine ⟨"(555)123-4567", by decide +kernel, ?_⟩
  decide +kernel

end HybridSearch.Language
