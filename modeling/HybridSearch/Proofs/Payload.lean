import HybridSearch.Http.MultiSearch
import HybridSearch.Proofs.PlainNumber

/-!
# One line for every query

The text of a JSON value is on one line, since whatever its strings and names hold is escaped where
it is a control character, and numbers are written without any. So the ends of the lines of a batch
are where its headers and bodies end, and nothing in a query can move them.
-/

namespace HybridSearch

/-! ### Texts without control characters -/

/-- Whether a text stands on one line, and has no other control character either. -/
def Uncontrolled (cs : List Char) : Prop := ∀ c ∈ cs, 32 ≤ c.toNat

namespace Uncontrolled

variable {c : Char} {cs ds : List Char}

theorem nil : Uncontrolled [] := List.forall_mem_nil _

theorem cons (hc : 32 ≤ c.toNat) (hcs : Uncontrolled cs) : Uncontrolled (c :: cs) :=
  List.forall_mem_cons.mpr ⟨hc, hcs⟩

theorem append (hcs : Uncontrolled cs) (hds : Uncontrolled ds) : Uncontrolled (cs ++ ds) :=
  List.forall_mem_append.mpr ⟨hcs, hds⟩

theorem newline_not_mem (hcs : Uncontrolled cs) : '\n' ∉ cs := by
  intro hmem
  exact absurd (hcs _ hmem) (by decide)

end Uncontrolled

theorem le_toNat_of_isDigit {c : Char} (hc : c.isDigit) : 32 ≤ c.toNat := by
  rw [Char.isDigit, Bool.and_eq_true, decide_eq_true_iff] at hc
  exact le_trans (by decide : 32 ≤ 48) (UInt32.le_iff_toNat_le.mp hc.1)

theorem uncontrolled_toDigits (n : Nat) : Uncontrolled (Nat.toDigits 10 n) :=
  fun _ hc => le_toNat_of_isDigit (Nat.isDigit_of_mem_toDigits (by decide) (by decide) hc)

namespace Decimal

theorem uncontrolled_plainChars (d : Decimal) : Uncontrolled d.plainChars := by
  intro c hc
  rcases digit_or_point_of_mem_plainChars hc with hdigit | rfl
  · exact le_toNat_of_isDigit hdigit
  · decide

theorem uncontrolled_scientificChars (d : Decimal) : Uncontrolled d.scientificChars := by
  have hdigits : Uncontrolled d.digitChars := uncontrolled_toDigits d.digits
  rw [scientificChars]
  refine Uncontrolled.append ?_ (.cons (by decide) (.cons ?_ (uncontrolled_toDigits _)))
  · split_ifs
    · exact hdigits
    · exact Uncontrolled.append (fun c hc => hdigits c (List.mem_of_mem_take hc))
        (.cons (by decide) fun c hc => hdigits c (List.mem_of_mem_drop hc))
  · split_ifs <;> decide

theorem plainChars_ne_nil {d : Decimal} (hd : ¬ 0 ≤ d.exponent) : d.plainChars ≠ [] := by
  simp only [plainChars, if_neg hd]
  split_ifs <;> simp

end Decimal

theorem uncontrolled_jsonNumberChars (x : Float) : Uncontrolled (jsonNumberChars x) := by
  have hsigned {cs : List Char} (hcs : Uncontrolled cs) : Uncontrolled (signed x cs) := by
    rw [signed]
    split_ifs
    · exact .cons (by decide) hcs
    · exact hcs
  have hzero : Uncontrolled ['.', '0'] := .cons (by decide) (.cons (by decide) .nil)
  refine hsigned ?_
  split_ifs
  · exact .cons (by decide) hzero
  · exact Decimal.uncontrolled_scientificChars _
  · exact (Decimal.uncontrolled_plainChars _).append hzero
  · exact Decimal.uncontrolled_plainChars _

theorem jsonNumberChars_ne_nil (x : Float) : jsonNumberChars x ≠ [] := by
  have hsigned {cs : List Char} (hcs : cs ≠ []) : signed x cs ≠ [] := by
    rw [signed]
    split_ifs
    · exact List.cons_ne_nil _ _
    · exact hcs
  refine hsigned ?_
  split_ifs with _ _ hwhole
  · exact List.cons_ne_nil _ _
  · simp [Decimal.scientificChars]
  · simp
  · exact Decimal.plainChars_ne_nil hwhole

namespace Json

theorem uncontrolled_hexDigit : ∀ n, n < 16 → 32 ≤ (Text.hexDigit n).toNat := by
  decide

/-- What a control character is escaped with is no control character. -/
theorem uncontrolled_escapeChar (c : Char) : Uncontrolled (escapeChar c) := by
  unfold escapeChar
  by_cases hcontrol : c.toNat < 32
  case pos =>
    have hhigh := uncontrolled_hexDigit (c.toNat / 16) (by omega)
    have hlow := uncontrolled_hexDigit (c.toNat % 16) (by omega)
    split_ifs <;> simp [Uncontrolled, hhigh, hlow]
  case neg =>
    have hplain : 32 ≤ c.toNat := not_lt.mp hcontrol
    split_ifs <;> simp [Uncontrolled, hplain]

theorem uncontrolled_quote (s : String) : Uncontrolled (quote s) := by
  refine .cons (by decide) (Uncontrolled.append ?_ (.cons (by decide) .nil))
  intro c hc
  obtain ⟨d, -, hd⟩ := List.mem_flatMap.mp hc
  exact uncontrolled_escapeChar d c hd

theorem uncontrolled_intChars (n : Int) : Uncontrolled (intChars n) := by
  rw [intChars]
  split_ifs
  · exact .cons (by decide) (uncontrolled_toDigits _)
  · exact uncontrolled_toDigits _

mutual

theorem uncontrolled_chars : ∀ j : Json, Uncontrolled j.chars
  | .null => by simp [chars, Uncontrolled]
  | .bool true => by simp [chars, Uncontrolled]
  | .bool false => by simp [chars, Uncontrolled]
  | .int n => uncontrolled_intChars n
  | .float x => by
      rw [chars]
      split
      · exact uncontrolled_jsonNumberChars x
      · simp [Uncontrolled]
  | .str s => uncontrolled_quote s
  | .arr items => by
      rw [chars]
      exact .cons (by decide) ((uncontrolled_itemsChars items).append (.cons (by decide) .nil))
  | .obj members => by
      rw [chars]
      exact .cons (by decide) ((uncontrolled_membersChars members).append (.cons (by decide) .nil))

theorem uncontrolled_itemsChars : ∀ items : List Json, Uncontrolled (itemsChars items)
  | [] => .nil
  | [item] => uncontrolled_chars item
  | item :: next :: rest =>
      (uncontrolled_chars item).append (.cons (by decide) (uncontrolled_itemsChars (next :: rest)))

theorem uncontrolled_membersChars :
    ∀ members : List (String × Json), Uncontrolled (membersChars members)
  | [] => .nil
  | [(name, value)] =>
      (uncontrolled_quote name).append (.cons (by decide) (uncontrolled_chars value))
  | (name, value) :: next :: rest =>
      (uncontrolled_quote name).append (.cons (by decide) ((uncontrolled_chars value).append
        (.cons (by decide) (uncontrolled_membersChars (next :: rest)))))

end

theorem intChars_ne_nil (n : Int) : intChars n ≠ [] := by
  rw [intChars]
  split_ifs
  · exact List.cons_ne_nil _ _
  · exact Nat.toDigits_ne_nil

/-- No value is written as an empty text. -/
theorem chars_ne_nil (j : Json) : j.chars ≠ [] := by
  cases j with
  | null => simp [chars]
  | bool b => cases b <;> simp [chars]
  | int n => exact intChars_ne_nil n
  | float x =>
    rw [chars]
    split_ifs
    · exact jsonNumberChars_ne_nil x
    · simp
  | str s => exact List.cons_ne_nil _ _
  | arr items => simp [chars]
  | obj members => simp [chars]

end Json

/-! ### Lines and their ends -/

/-- Where no line has an end of a line in it, the text splits into its lines and an empty rest. -/
theorem splitOn_lines {lines : List (List Char)} (hlines : ∀ line ∈ lines, '\n' ∉ line) :
    (lines.flatMap (· ++ ['\n'])).splitOn '\n' = lines ++ [[]] := by
  induction lines with
  | nil => rfl
  | cons line rest ih =>
    obtain ⟨hline, hrest⟩ := List.forall_mem_cons.mp hlines
    rw [List.flatMap_cons, List.append_assoc, List.singleton_append,
      List.splitOn_append_cons_self_of_not_mem hline, ih hrest, List.cons_append]

namespace Http.MultiSearch

theorem chars_header (index : String) :
    (header index).chars
      = ['\x7b', '"', 'i', 'n', 'd', 'e', 'x', '"', ':'] ++ Json.quote index ++ ['\x7d'] := by
  have hname : Json.quote "index" = ['"', 'i', 'n', 'd', 'e', 'x', '"'] := by decide
  change '\x7b' :: ((Json.quote "index" ++ ':' :: Json.quote index) ++ ['\x7d']) = _
  rw [hname]
  rfl

theorem length_lines (index : String) (bodies : List Json) :
    (lines index bodies).length = 2 * bodies.length := by
  simp [lines, List.length_flatMap, mul_comm]

/-- Every line of a batch is the text of a value. -/
theorem eq_chars_of_mem_lines {index : String} {bodies : List Json} {line : List Char}
    (hline : line ∈ lines index bodies) : ∃ j : Json, line = j.chars := by
  obtain ⟨body, -, hpair⟩ := List.mem_flatMap.mp hline
  rcases List.mem_pair.mp hpair with rfl | rfl
  · exact ⟨_, rfl⟩
  · exact ⟨_, rfl⟩

/-- The lines of a query are the two at twice its place. -/
theorem getElem?_lines (index : String) {bodies : List Json} {i : Nat} {body : Json}
    (hbody : bodies[i]? = some body) :
    (lines index bodies)[2 * i]? = some (header index).chars
      ∧ (lines index bodies)[2 * i + 1]? = some body.chars := by
  induction bodies generalizing i with
  | nil => simp at hbody
  | cons first rest ih =>
    cases i with
    | zero =>
      obtain rfl : first = body := by simpa using hbody
      exact ⟨rfl, rfl⟩
    | succ i => exact ih hbody

/-- Whatever the texts in the bodies, a batch of them splits at the ends of its lines into two lines
for each body, which are its header and the body in compact form, and an empty rest. -/
theorem payload_frames (index : String) (bodies : List Json) :
    ∃ lines : List (List Char),
      (payload index bodies).toList.splitOn '\n' = lines ++ [[]]
        ∧ lines.length = 2 * bodies.length
        ∧ (∀ line ∈ lines, line ≠ [])
        ∧ ∀ i body, bodies[i]? = some body →
            lines[2 * i]?
                = some (['\x7b', '"', 'i', 'n', 'd', 'e', 'x', '"', ':'] ++ Json.quote index
                    ++ ['\x7d'])
              ∧ lines[2 * i + 1]? = some body.chars := by
  have hone : ∀ line ∈ lines index bodies, '\n' ∉ line := by
    intro line hline
    obtain ⟨j, rfl⟩ := eq_chars_of_mem_lines hline
    exact (Json.uncontrolled_chars j).newline_not_mem
  refine ⟨lines index bodies, ?_, length_lines index bodies, ?_, ?_⟩
  case refine_1 =>
    rw [payload, String.toList_ofList]
    exact splitOn_lines hone
  case refine_2 =>
    intro line hline
    obtain ⟨j, rfl⟩ := eq_chars_of_mem_lines hline
    exact Json.chars_ne_nil j
  case refine_3 =>
    intro i body hbody
    rw [← chars_header]
    exact getElem?_lines index hbody

end Http.MultiSearch

end HybridSearch
