import HybridSearch.Json.Reading
import HybridSearch.Proofs.Words
import Mathlib.Data.List.Chain
import Mathlib.Tactic.SplitIfs

/-!
# How tokens are written

Marks, words, strings and numbers are written here as the grammar of JSON has them, and blanks may
stand between any two of them. A text is cut into tokens exactly when it writes them, as long as no
value follows another without a mark between them: the digits of two numbers would run together.
-/

namespace HybridSearch.Reading

open Scan (Token)

/-! ### Strings -/

/-- A character of a string, and what it may be written as. -/
inductive WritesChar : List Char → Char → Prop
  | plain {c : Char} (hquote : c ≠ '"') (hescape : c ≠ '\\') (hprinted : 32 ≤ c.toNat) :
      WritesChar [c] c
  | short {mark c : Char} (hshort : Scan.shortEscape? mark = some c) : WritesChar ['\\', mark] c
  | unit {a b c d : Char} {unit : Nat} (hunit : Scan.hexUnit? a b c d = some unit)
      (hlow : Scan.isLowSurrogate unit = false) (hhigh : Scan.isHighSurrogate unit = false) :
      WritesChar ['\\', 'u', a, b, c, d] (.ofNat unit)
  | pair {a b c d e f g h : Char} {high low : Nat} (hfirst : Scan.hexUnit? a b c d = some high)
      (hhigh : Scan.isHighSurrogate high) (hsecond : Scan.hexUnit? e f g h = some low)
      (hlow : Scan.isLowSurrogate low) :
      WritesChar ['\\', 'u', a, b, c, d, '\\', 'u', e, f, g, h] (Scan.joinSurrogates high low)

/-- What stands between the quotes of a string. -/
inductive WritesChars : List Char → List Char → Prop
  | nil : WritesChars [] []
  | cons {piece written cs : List Char} {c : Char} (hc : WritesChar piece c)
      (hcs : WritesChars written cs) : WritesChars (piece ++ written) (c :: cs)

theorem drop_of_cons_eq_append {first : Char} {more piece tail : List Char}
    (htext : first :: more = piece ++ tail) (hpiece : piece ≠ []) :
    more.drop (piece.length - 1) = tail := by
  cases piece with
  | nil => exact absurd rfl hpiece
  | cons c rest =>
    obtain ⟨-, rfl⟩ := List.cons.inj htext
    exact List.drop_left

theorem WritesChar.head {piece : List Char} {c : Char} (hc : WritesChar piece c) :
    ∃ first more, piece = first :: more ∧ first ≠ '"' := by
  cases hc with
  | plain hquote => exact ⟨_, _, rfl, hquote⟩
  | _ => exact ⟨'\\', _, rfl, by decide⟩

theorem isLowSurrogate_of_isHighSurrogate {unit : Nat} (hhigh : Scan.isHighSurrogate unit) :
    Scan.isLowSurrogate unit = false := by
  rw [Scan.isHighSurrogate, Bool.and_eq_true, decide_eq_true_eq, decide_eq_true_eq] at hhigh
  rw [Scan.isLowSurrogate, Bool.and_eq_false_iff, decide_eq_false_iff_not]
  omega

theorem stringChar?_append {piece : List Char} {c : Char} (hc : WritesChar piece c)
    (rest : List Char) : Scan.stringChar? (piece ++ rest) = some (c, piece.length) := by
  cases hc with
  | plain hquote hescape hprinted =>
    have hplain := Nat.not_lt.mpr hprinted
    simp [Scan.stringChar?, hescape, hplain]
  | @short mark _ hshort =>
    have hmark : mark ≠ 'u' := by
      rintro rfl
      cases hshort
    simp [Scan.stringChar?, hmark, hshort]
  | unit hunit hlow hhigh => simp [Scan.stringChar?, hunit, hlow, hhigh]
  | pair hfirst hhigh hsecond hlow =>
    simp [Scan.stringChar?, hfirst, hhigh, isLowSurrogate_of_isHighSurrogate hhigh, hsecond, hlow]

/-- What is read as a character writes it, but for an escape that the text breaks off in. -/
theorem writesChar_of_stringChar? {first c : Char} {more : List Char} {n : Nat}
    (hread : Scan.stringChar? (first :: more) = some (c, n)) (hquote : first ≠ '"')
    (hmore : more ≠ []) :
    ∃ piece rest, first :: more = piece ++ rest ∧ n = piece.length ∧ WritesChar piece c := by
  rw [Scan.stringChar?.eq_def] at hread
  split at hread
  case h_1 a b c' d rest hsplit =>
    cases hsplit
    obtain ⟨unit, hunit, hread⟩ := Option.bind_eq_some_iff.mp hread
    split_ifs at hread with hlow hhigh
    · split at hread
      case h_1 e f g h after _ =>
        obtain ⟨low, hsecond, hread⟩ := Option.bind_eq_some_iff.mp hread
        split_ifs at hread with hjoined
        obtain ⟨rfl, rfl⟩ := Prod.mk.inj (Option.some.inj hread)
        exact ⟨_, after, rfl, rfl, .pair hunit hhigh hsecond hjoined⟩
      case h_2 => cases hread
    · cases hread
      rw [Bool.not_eq_true] at hlow hhigh
      exact ⟨_, rest, rfl, rfl, .unit hunit hlow hhigh⟩
  case h_2 mark rest _ hsplit =>
    cases hsplit
    obtain ⟨_, hshort, ⟨⟩⟩ := Option.map_eq_some_iff.mp hread
    exact ⟨_, rest, rfl, rfl, .short hshort⟩
  case h_3 head rest _ hescape hsplit =>
    cases hsplit
    split_ifs at hread with hprinted
    cases hread
    refine ⟨[first], more, rfl, rfl, .plain hquote ?_ (Nat.not_lt.mp hprinted)⟩
    rintro rfl
    obtain ⟨mark, rest, rfl⟩ := List.exists_cons_of_ne_nil hmore
    exact hescape mark rest rfl rfl
  case h_4 hsplit => cases hsplit

theorem stringBody?_append {written cs : List Char} (hcs : WritesChars written cs)
    (rest : List Char) :
    Scan.stringBody? (written ++ '"' :: rest) = some (cs, written.length + 1) := by
  induction hcs with
  | nil => simp [Scan.stringBody?]
  | @cons piece written cs c hc hcs ih =>
    have hread := stringChar?_append hc (written ++ '"' :: rest)
    obtain ⟨first, more, rfl, hquote⟩ := hc.head
    rw [List.cons_append] at hread
    rw [List.append_assoc, List.cons_append, Scan.stringBody?, if_neg hquote, hread]
    simp [ih]
    omega

theorem writesChars_of_stringBody? {text cs : List Char} {n : Nat}
    (hread : Scan.stringBody? text = some (cs, n)) :
    ∃ written rest, text = written ++ '"' :: rest ∧ n = written.length + 1
      ∧ WritesChars written cs := by
  fun_induction Scan.stringBody? text generalizing cs n with
  | case1 => cases hread
  | case2 more =>
    cases hread
    exact ⟨[], more, rfl, rfl, .nil⟩
  | case3 => cases hread
  | case4 first more hquote c width hchar ih =>
    obtain ⟨⟨later, m⟩, hlater, ⟨⟩⟩ := Option.map_eq_some_iff.mp hread
    obtain ⟨written, rest, hrest, rfl, hwritten⟩ := ih hlater
    have hmore : more ≠ [] := by
      rintro rfl
      simp at hrest
    obtain ⟨piece, tail, htext, rfl, hpiece⟩ := writesChar_of_stringChar? hchar hquote hmore
    obtain ⟨_, _, rfl, -⟩ := hpiece.head
    have hdrop := drop_of_cons_eq_append htext (List.cons_ne_nil _ _)
    refine ⟨_ ++ written, rest, ?_, ?_, .cons hpiece hwritten⟩
    · rw [htext, List.append_assoc, ← hrest, hdrop]
    · simp
      omega

/-! ### Numbers -/

def IsDigits (ds : List Char) : Prop := ds ≠ [] ∧ ∀ c ∈ ds, c.isDigit

inductive WritesFraction : List Char → Option (List Char) → Prop
  | none : WritesFraction [] none
  | some {ds : List Char} (hdigits : IsDigits ds) : WritesFraction ('.' :: ds) (some ds)

inductive WritesExponent : List Char → Option Int → Prop
  | none : WritesExponent [] none
  | positive {mark : Char} {plus ds : List Char} (hmark : mark = 'e' ∨ mark = 'E')
      (hplus : plus = [] ∨ plus = ['+']) (hdigits : IsDigits ds) :
      WritesExponent (mark :: (plus ++ ds)) (some (Decimal.natOfDigits ds))
  | negative {mark : Char} {ds : List Char} (hmark : mark = 'e' ∨ mark = 'E')
      (hdigits : IsDigits ds) :
      WritesExponent (mark :: '-' :: ds) (some (-(Decimal.natOfDigits ds : Int)))

/-- No zero stands before the other digits of a number. -/
inductive WritesNumber : List Char → Reading → Prop
  | mk {negative : Bool} {whole point power : List Char} {fraction : Option (List Char)}
      {exponent : Option Int} (hwhole : IsDigits whole)
      (hzero : ¬ (1 < whole.length ∧ whole.head? = some '0'))
      (hpoint : WritesFraction point fraction) (hpower : WritesExponent power exponent) :
      WritesNumber ((if negative then ['-'] else []) ++ (whole ++ (point ++ power)))
        (Scan.numberValue negative whole fraction exponent)

/-- Behind a number, a character that would be read as part of it. -/
def runsOn (c : Char) : Bool := c.isDigit || c = '.' || c = 'e' || c = 'E'

theorem not_isDigit_of_runsOn {c : Char} (hc : runsOn c = false) : c.isDigit = false := by
  simp only [runsOn, Bool.or_eq_false_iff] at hc
  exact hc.1.1.1

theorem ne_of_runsOn {c : Char} (hc : runsOn c = false) : c ≠ '.' ∧ ¬ (c = 'e' ∨ c = 'E') := by
  simp only [runsOn, Bool.or_eq_false_iff, decide_eq_false_iff_not] at hc
  exact ⟨hc.1.1.2, not_or.mpr ⟨hc.1.2, hc.2⟩⟩

variable {rest : List Char}

theorem takeWhile_isDigit_append {ds : List Char} (hds : ∀ c ∈ ds, c.isDigit)
    (hrest : ∀ c ∈ rest.head?, c.isDigit = false) : (ds ++ rest).takeWhile Char.isDigit = ds := by
  rw [Text.takeWhile_append_of_stop hrest, List.takeWhile_eq_self_iff]
  exact hds

theorem isDigits_takeWhile {text : List Char} (hsome : text.takeWhile Char.isDigit ≠ []) :
    IsDigits (text.takeWhile Char.isDigit) :=
  ⟨hsome, fun _ => List.mem_takeWhile_imp⟩

theorem fraction?_append {point : List Char} {fraction : Option (List Char)}
    (hpoint : WritesFraction point fraction) (hdigit : ∀ c ∈ rest.head?, c.isDigit = false)
    (hdot : ∀ c ∈ rest.head?, c ≠ '.') : Scan.fraction? (point ++ rest) = some fraction := by
  cases hpoint with
  | none =>
    rw [List.nil_append, Scan.fraction?.eq_def]
    split
    · exact absurd rfl (hdot '.' rfl)
    · rfl
  | some hdigits =>
    rw [List.cons_append, Scan.fraction?]
    simp only [takeWhile_isDigit_append hdigits.2 hdigit]
    rw [if_neg hdigits.1]

theorem writesFraction_of_fraction? {text : List Char} {fraction : Option (List Char)}
    (hread : Scan.fraction? text = some fraction) :
    ∃ point rest, text = point ++ rest ∧ WritesFraction point fraction := by
  rw [Scan.fraction?.eq_def] at hread
  split at hread
  case h_1 rest =>
    dsimp only at hread
    split_ifs at hread with hnone
    cases hread
    refine ⟨'.' :: rest.takeWhile Char.isDigit, rest.dropWhile Char.isDigit, ?_,
      .some (isDigits_takeWhile hnone)⟩
    rw [List.cons_append, List.takeWhile_append_dropWhile]
  case h_2 =>
    cases hread
    exact ⟨[], text, rfl, .none⟩

theorem head?_ne_minus {ds : List Char} (hdigits : IsDigits ds) : ds.head? ≠ some '-' := by
  intro hminus
  cases hdigits.2 '-' (List.mem_of_head? hminus)

theorem splitSign_append {ds : List Char} (hdigits : IsDigits ds) (rest : List Char) :
    Decimal.splitSign (ds ++ rest) = (false, ds ++ rest) := by
  obtain ⟨d, more, rfl⟩ := List.exists_cons_of_ne_nil hdigits.1
  have hd : d.isDigit := hdigits.2 d List.mem_cons_self
  have hminus : d ≠ '-' := by
    rintro rfl
    cases hd
  have hplus : d ≠ '+' := by
    rintro rfl
    cases hd
  rw [List.cons_append, Decimal.splitSign]
  · simpa using hminus
  · simpa using hplus

theorem exponent?_append {power : List Char} {exponent : Option Int}
    (hpower : WritesExponent power exponent) (hrest : ∀ c ∈ rest.head?, runsOn c = false) :
    Scan.exponent? (power ++ rest) = some (exponent, power.length) := by
  have hdigit (ds : List Char) (hds : IsDigits ds) : (ds ++ rest).takeWhile Char.isDigit = ds :=
    takeWhile_isDigit_append hds.2 fun c hc => not_isDigit_of_runsOn (hrest c hc)
  cases hpower with
  | none =>
    cases rest with
    | nil => rfl
    | cons c rest =>
      rw [List.nil_append, Scan.exponent?, if_neg (ne_of_runsOn (hrest c rfl)).2]
      rfl
  | @positive mark plus ds hmark hplus hdigits =>
    rcases hplus with rfl | rfl
    · simp [Scan.exponent?, hmark, splitSign_append hdigits, hdigit _ hdigits, hdigits.1]
      omega
    · simp [Scan.exponent?, hmark, Decimal.splitSign, hdigit _ hdigits, hdigits.1]
      omega
  | @negative mark ds hmark hdigits =>
    simp [Scan.exponent?, hmark, Decimal.splitSign, hdigit _ hdigits, hdigits.1]
    omega

theorem splitSign_cases (text : List Char) :
    (∃ ds, text = '-' :: ds ∧ Decimal.splitSign text = (true, ds)) ∨
      ∃ plus ds, (plus = [] ∨ plus = ['+']) ∧ text = plus ++ ds
        ∧ Decimal.splitSign text = (false, ds) := by
  fun_cases Decimal.splitSign text with
  | case1 rest => exact .inl ⟨rest, rfl, rfl⟩
  | case2 rest => exact .inr ⟨['+'], rest, .inr rfl, rfl, rfl⟩
  | case3 => exact .inr ⟨[], text, .inl rfl, rfl, rfl⟩

theorem writesExponent_of_exponent? {text : List Char} {exponent : Option Int} {n : Nat}
    (hread : Scan.exponent? text = some (exponent, n)) :
    ∃ power rest, text = power ++ rest ∧ n = power.length ∧ WritesExponent power exponent := by
  rw [Scan.exponent?.eq_def] at hread
  split at hread
  case h_1 =>
    cases hread
    exact ⟨[], [], rfl, rfl, .none⟩
  case h_2 mark text =>
    split_ifs at hread with hmark
    · obtain ⟨ds, rfl, hsign⟩ | ⟨plus, ds, hplus, rfl, hsign⟩ := splitSign_cases text
      all_goals
        simp only [hsign, Bool.false_eq_true, ↓reduceIte] at hread
        split_ifs at hread with hnone
        cases hread
      · refine ⟨mark :: '-' :: ds.takeWhile Char.isDigit, ds.dropWhile Char.isDigit, ?_, ?_,
          .negative hmark (isDigits_takeWhile hnone)⟩
        · rw [List.cons_append, List.cons_append, List.takeWhile_append_dropWhile]
        · simp
          omega
      · refine ⟨mark :: (plus ++ ds.takeWhile Char.isDigit), ds.dropWhile Char.isDigit, ?_, ?_,
          .positive hmark hplus (isDigits_takeWhile hnone)⟩
        · rw [List.cons_append, List.append_assoc, List.takeWhile_append_dropWhile]
        · simp
          omega
    · cases hread
      exact ⟨[], mark :: text, rfl, rfl, .none⟩

/-- Neither a digit nor a point follows what is before an exponent. -/
theorem stop_of_writesExponent {power : List Char} {exponent : Option Int}
    (hpower : WritesExponent power exponent) (hrest : ∀ c ∈ rest.head?, runsOn c = false) :
    ∀ c ∈ (power ++ rest).head?, c.isDigit = false ∧ c ≠ '.' := by
  have hmarked (mark : Char) (hmark : mark = 'e' ∨ mark = 'E') :
      mark.isDigit = false ∧ mark ≠ '.' := by
    rcases hmark with rfl | rfl <;> decide
  intro c hc
  cases hpower with
  | none => exact ⟨not_isDigit_of_runsOn (hrest c hc), (ne_of_runsOn (hrest c hc)).1⟩
  | positive hmark hplus hdigits =>
    cases hc
    exact hmarked _ hmark
  | negative hmark hdigits =>
    cases hc
    exact hmarked _ hmark

theorem number?_append {written : List Char} {r : Reading} (hr : WritesNumber written r)
    (hrest : ∀ c ∈ rest.head?, runsOn c = false) :
    Scan.number? (written ++ rest) = some (r, written.length) := by
  obtain @⟨negative, whole, point, power, fraction, exponent, hwhole, hzero, hpoint, hpower⟩ := hr
  have hstop := stop_of_writesExponent hpower hrest
  have hdigit : ∀ c ∈ (point ++ (power ++ rest)).head?, c.isDigit = false := by
    intro c hc
    cases hpoint with
    | none => exact (hstop c hc).1
    | some =>
      cases hc
      rfl
  have hdigits := takeWhile_isDigit_append hwhole.2 hdigit
  have hfraction := fraction?_append hpoint (fun c hc => (hstop c hc).1) fun c hc => (hstop c hc).2
  have hexponent := exponent?_append hpower hrest
  have hhead : (whole ++ (point ++ (power ++ rest))).head? ≠ some '-' := by
    rw [List.head?_append_of_ne_nil _ hwhole.1]
    exact head?_ne_minus hwhole
  rw [List.append_assoc, List.append_assoc, List.append_assoc]
  cases negative with
  | false =>
    simp only [Bool.false_eq_true, ↓reduceIte, List.nil_append, Scan.number?, eq_false hhead,
      hdigits, hwhole.1, hzero, false_or, List.drop_left, hfraction, Option.bind_eq_bind,
      Option.bind_some, Option.pure_def]
    cases hpoint with
    | none => simp [hexponent]
    | some => simp [hexponent, Nat.add_comm 1, Nat.add_assoc]
  | true =>
    simp only [↓reduceIte, List.cons_append, List.nil_append, Scan.number?, List.head?_cons,
      List.drop_succ_cons, List.drop_zero, hdigits, hwhole.1, hzero, false_or, List.drop_left,
      hfraction, Option.bind_eq_bind, Option.bind_some, Option.pure_def]
    cases hpoint with
    | none =>
      simp [hexponent]
      omega
    | some =>
      simp [hexponent, Nat.add_comm 1]
      omega

theorem writesNumber_of_number? {text : List Char} {r : Reading} {n : Nat}
    (hread : Scan.number? text = some (r, n)) :
    ∃ written rest, text = written ++ rest ∧ n = written.length ∧ WritesNumber written r := by
  rw [Scan.number?] at hread
  simp only [Option.bind_eq_bind, Option.pure_def, Option.ite_none_left_eq_some,
    Option.bind_eq_some_iff, Option.some.injEq, Prod.mk.injEq] at hread
  obtain ⟨hwhole, fraction, hfraction, ⟨exponent, width⟩, hexponent, rfl, rfl⟩ := hread
  generalize hds : (if text.head? = some '-' then text.drop 1 else text) = ds at *
  generalize hrun : ds.takeWhile Char.isDigit = whole at *
  obtain ⟨hsome, hzero⟩ := not_or.mp hwhole
  have hdigits : IsDigits whole := ⟨hsome, fun c hc => List.mem_takeWhile_imp (hrun ▸ hc)⟩
  have hsplit : whole ++ ds.drop whole.length = ds :=
    (List.prefix_iff_eq_append.mp (hrun ▸ List.takeWhile_prefix _))
  obtain ⟨point, after, hafter, hpoint⟩ := writesFraction_of_fraction? hfraction
  rw [hafter] at hsplit hexponent
  obtain ⟨power, rest, hpower, hwidth, hwritten⟩ := writesExponent_of_exponent? hexponent
  have htail : after = power ++ rest := by
    rw [← hpower]
    cases hpoint with
    | none => rfl
    | some => exact (List.drop_left' (Nat.add_comm _ _)).symm
  refine ⟨_, rest, ?_, ?_, .mk hdigits hzero hpoint hwritten⟩
  · rw [List.append_assoc, List.append_assoc, List.append_assoc, ← htail, hsplit, ← hds]
    by_cases hminus : text.head? = some '-'
    · obtain ⟨more, rfl⟩ := List.head?_eq_some_iff.mp hminus
      rfl
    · simp [hminus]
  · by_cases hminus : text.head? = some '-' <;> cases hpoint <;> simp [hminus, hwidth] <;> omega

/-! ### Values that hold no others -/

inductive WritesScalar : List Char → Reading → Prop
  | null : WritesScalar "null".toList .null
  | true : WritesScalar "true".toList (.bool true)
  | false : WritesScalar "false".toList (.bool false)
  | string {written cs : List Char} (hcs : WritesChars written cs) :
      WritesScalar ('"' :: (written ++ ['"'])) (.str (.ofList cs))
  | number {written : List Char} {r : Reading} (hr : WritesNumber written r) :
      WritesScalar written r

/-- With what a word, a string or a number can begin. -/
def begins (c : Char) : Bool :=
  c = 'n' || c = 't' || c = 'f' || c = '"' || c = '-' || c.isDigit

theorem WritesNumber.head {written : List Char} {r : Reading} (hr : WritesNumber written r) :
    ∃ first more, written = first :: more ∧ (first = '-' ∨ first.isDigit) := by
  obtain @⟨negative, whole, point, power, fraction, exponent, hwhole, hzero, hpoint, hpower⟩ := hr
  cases negative with
  | true => exact ⟨'-', _, rfl, .inl rfl⟩
  | false =>
    obtain ⟨d, more, rfl⟩ := List.exists_cons_of_ne_nil hwhole.1
    exact ⟨d, _, rfl, .inr (hwhole.2 d List.mem_cons_self)⟩

theorem WritesScalar.head {written : List Char} {r : Reading} (hr : WritesScalar written r) :
    ∃ first more, written = first :: more ∧ begins first := by
  cases hr with
  | null => exact ⟨'n', _, rfl, rfl⟩
  | true => exact ⟨'t', _, rfl, rfl⟩
  | false => exact ⟨'f', _, rfl, rfl⟩
  | string => exact ⟨'"', _, rfl, rfl⟩
  | number hr =>
    obtain ⟨first, more, hwritten, hfirst⟩ := hr.head
    refine ⟨first, more, hwritten, ?_⟩
    rcases hfirst with rfl | hdigit
    · rfl
    · simp [begins, hdigit]

theorem scalar?_append {written : List Char} {r : Reading} (hr : WritesScalar written r)
    (hrest : ∀ c ∈ rest.head?, runsOn c = false) :
    Scan.scalar? (written ++ rest) = some (r, written.length) := by
  cases hr with
  | null => simp [Scan.scalar?, Scan.word?]
  | true => simp [Scan.scalar?, Scan.word?]
  | false => simp [Scan.scalar?, Scan.word?]
  | string hcs => simp [Scan.scalar?, stringBody?_append hcs]
  | number hr =>
    obtain ⟨first, more, rfl, hfirst⟩ := hr.head
    have hread := number?_append hr hrest
    rw [Scan.scalar?.eq_def]
    split
    case h_5 => exact hread
    all_goals
      rename_i hsplit
      cases hsplit
      rcases hfirst with hminus | hdigit
      · exact absurd hminus (by decide)
      · exact absurd hdigit (by decide)

theorem writesScalar_of_word? {word : String} {text : List Char} {r v : Reading} {n : Nat}
    (hv : WritesScalar word.toList v) (hread : Scan.word? word v text = some (r, n)) :
    ∃ written rest, text = written ++ rest ∧ n = written.length ∧ WritesScalar written r := by
  rw [Scan.word?] at hread
  split_ifs at hread with hword
  cases hread
  obtain ⟨rest, rfl⟩ := List.isPrefixOf_iff_prefix.mp hword
  exact ⟨word.toList, rest, rfl, rfl, hv⟩

theorem writesScalar_of_scalar? {text : List Char} {r : Reading} {n : Nat}
    (hread : Scan.scalar? text = some (r, n)) :
    ∃ written rest, text = written ++ rest ∧ n = written.length ∧ WritesScalar written r := by
  rw [Scan.scalar?.eq_def] at hread
  split at hread
  case h_1 => exact writesScalar_of_word? .null hread
  case h_2 => exact writesScalar_of_word? .true hread
  case h_3 => exact writesScalar_of_word? .false hread
  case h_4 rest =>
    obtain ⟨⟨cs, width⟩, hbody, ⟨⟩⟩ := Option.map_eq_some_iff.mp hread
    obtain ⟨written, rest, rfl, rfl, hwritten⟩ := writesChars_of_stringBody? hbody
    exact ⟨'"' :: (written ++ ['"']), rest, by simp, by simp, .string hwritten⟩
  case h_5 =>
    obtain ⟨written, rest, htext, hn, hwritten⟩ := writesNumber_of_number? hread
    exact ⟨written, rest, htext, hn, .number hwritten⟩

/-! ### Texts -/

inductive WritesToken : List Char → Token → Prop
  | openArray : WritesToken ['['] .openArray
  | closeArray : WritesToken [']'] .closeArray
  | openObject : WritesToken ['\x7b'] .openObject
  | closeObject : WritesToken ['\x7d'] .closeObject
  | comma : WritesToken [','] .comma
  | colon : WritesToken [':'] .colon
  | scalar {written : List Char} {r : Reading} (hr : WritesScalar written r) :
      WritesToken written (.scalar r)

/-- Tokens one after the other, with any blanks between them. -/
inductive Writes : List Char → List Token → Prop
  | nil : Writes [] []
  | blank {c : Char} {text : List Char} {ts : List Token} (hc : isBlank c)
      (hts : Writes text ts) : Writes (c :: text) ts
  | token {written text : List Char} {t : Token} {ts : List Token} (ht : WritesToken written t)
      (hts : Writes text ts) : Writes (written ++ text) (t :: ts)

def isValue : Token → Bool
  | .scalar _ => true
  | _ => false

/-- Tokens that can be read, no two of them values side by side. -/
structure Apart (ts : List Token) : Prop where
  readable : .bad ∉ ts
  marked : ts.IsChain fun t next => ¬ (isValue t ∧ isValue next)

theorem Apart.tail {t : Token} {ts : List Token} (hapart : Apart (t :: ts)) : Apart ts :=
  ⟨fun hbad => hapart.readable (List.mem_cons_of_mem _ hbad), hapart.marked.tail⟩

theorem Writes.mark {c : Char} {text : List Char} {t : Token} {ts : List Token}
    (ht : WritesToken [c] t) (hts : Writes text ts) : Writes (c :: text) (t :: ts) :=
  .token ht hts

theorem tokens_scalar {written text : List Char} {r : Reading} (hr : WritesScalar written r)
    (htext : ∀ c ∈ text.head?, runsOn c = false) :
    Scan.tokens (written ++ text) = .scalar r :: Scan.tokens text := by
  have hread := scalar?_append hr htext
  obtain ⟨first, more, rfl, hfirst⟩ := hr.head
  have hother (c : Char) (hc : begins c = false) : first ≠ c := by
    rintro rfl
    exact Bool.false_ne_true (hc.symm.trans hfirst)
  have hblank : ¬ isBlank first := by
    simp [isBlank, hother ' ' rfl, hother '\n' rfl, hother '\t' rfl, hother '\r' rfl]
  rw [List.cons_append] at hread ⊢
  rw [Scan.tokens, if_neg hblank, if_neg (hother '[' rfl), if_neg (hother ']' rfl),
    if_neg (hother '\x7b' rfl), if_neg (hother '\x7d' rfl), if_neg (hother ',' rfl),
    if_neg (hother ':' rfl), hread]
  simp

theorem stop_of_writes {text : List Char} {ts : List Token} (hts : Writes text ts)
    (hnext : ∀ t ∈ ts.head?, isValue t = false) : ∀ c ∈ text.head?, runsOn c = false := by
  intro c hc
  cases hts with
  | nil => cases hc
  | blank hblank =>
    cases hc
    simp only [isBlank, Bool.or_eq_true, decide_eq_true_eq] at hblank
    obtain ((rfl | rfl) | rfl) | rfl := hblank <;> rfl
  | token ht =>
    have hmark := hnext _ rfl
    cases ht with
    | scalar => cases hmark
    | _ =>
      cases hc
      rfl

theorem tokens_of_writes {text : List Char} {ts : List Token} (hts : Writes text ts)
    (hapart : Apart ts) : Scan.tokens text = ts := by
  induction hts with
  | nil => rw [Scan.tokens]
  | blank hc hts ih => rw [Scan.tokens, if_pos hc, ih hapart]
  | token ht hts ih =>
    have hmore := ih hapart.tail
    cases ht with
    | scalar hr =>
      have hnext := (List.isChain_cons.mp hapart.marked).1
      rw [tokens_scalar hr (stop_of_writes hts fun t ht => ?_), hmore]
      exact Bool.eq_false_iff.mpr fun hvalue => hnext t ht ⟨rfl, hvalue⟩
    | _ => simp [Scan.tokens, isBlank, hmore]

theorem writes_tokens {text : List Char} (hreadable : .bad ∉ Scan.tokens text) :
    Writes text (Scan.tokens text) := by
  fun_induction Scan.tokens text with
  | case1 => exact .nil
  | case2 c rest hc ih => exact .blank hc (ih hreadable)
  | case3 _ _ ih => exact .mark .openArray (ih (List.not_mem_of_not_mem_cons hreadable))
  | case4 _ _ _ ih => exact .mark .closeArray (ih (List.not_mem_of_not_mem_cons hreadable))
  | case5 _ _ _ _ ih => exact .mark .openObject (ih (List.not_mem_of_not_mem_cons hreadable))
  | case6 _ _ _ _ _ ih => exact .mark .closeObject (ih (List.not_mem_of_not_mem_cons hreadable))
  | case7 _ _ _ _ _ _ ih => exact .mark .comma (ih (List.not_mem_of_not_mem_cons hreadable))
  | case8 _ _ _ _ _ _ _ ih => exact .mark .colon (ih (List.not_mem_of_not_mem_cons hreadable))
  | case9 => exact absurd List.mem_cons_self hreadable
  | case10 first more _ _ _ _ _ _ _ r width hscalar ih =>
    obtain ⟨written, rest, htext, rfl, hr⟩ := writesScalar_of_scalar? hscalar
    obtain ⟨_, _, rfl, -⟩ := hr.head
    have hrest := drop_of_cons_eq_append htext (List.cons_ne_nil _ _)
    rw [hrest] at ih hreadable ⊢
    rw [htext]
    exact .token (.scalar hr) (ih (List.not_mem_of_not_mem_cons hreadable))

/-- Tokens that are set apart are the ones that a text is cut into exactly when it writes them. -/
theorem tokens_eq_iff {text : List Char} {ts : List Token} (hapart : Apart ts) :
    Scan.tokens text = ts ↔ Writes text ts := by
  constructor
  · rintro rfl
    exact writes_tokens hapart.readable
  · exact fun hts => tokens_of_writes hts hapart

end HybridSearch.Reading
