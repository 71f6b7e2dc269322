import HybridSearch.Decimal.Literal
import HybridSearch.Json.Basic
import HybridSearch.Text.Hex

/-!
What a text says as JSON, member by member in the order written, with repeated names kept. Where the text stops being
JSON the reading is `broken` and ends there, so a reader of typed values can tell what came before the break.
-/

namespace HybridSearch

inductive Reading where
  | null
  | bool (value : Bool)
  | int (value : Int)
  /-- Infinite when the written number is beyond the doubles, which only a skipped value may be. -/
  | float (value : Float)
  | str (value : String)
  | arr (items : List Reading)
  | obj (members : List (String × Reading))
  | broken
deriving Inhabited, Repr

namespace Reading

def ofJson : Json → Reading
  | .null => .null
  | .bool b => .bool b
  | .int n => .int n
  | .float x => .float x
  | .str s => .str s
  | .arr items => .arr (ofItems items)
  | .obj members => .obj (ofMembers members)
where
  ofItems : List Json → List Reading
    | [] => []
    | j :: rest => ofJson j :: ofItems rest
  ofMembers : List (String × Json) → List (String × Reading)
    | [] => []
    | (name, j) :: rest => (name, ofJson j) :: ofMembers rest

def isBlank (c : Char) : Bool := c = ' ' || c = '\n' || c = '\t' || c = '\r'

namespace Scan

open Text (hexValue?)

def hexUnit? (a b c d : Char) : Option Nat := do
  let a ← hexValue? a
  let b ← hexValue? b
  let c ← hexValue? c
  let d ← hexValue? d
  return 4096 * a + 256 * b + 16 * c + d

def shortEscape? : Char → Option Char
  | '"' => some '"'
  | '\\' => some '\\'
  | '/' => some '/'
  | 'b' => some '\x08'
  | 'f' => some '\x0c'
  | 'n' => some '\n'
  | 'r' => some '\r'
  | 't' => some '\t'
  | _ => none

def isHighSurrogate (unit : Nat) : Bool := 0xD800 ≤ unit && unit < 0xDC00

def isLowSurrogate (unit : Nat) : Bool := 0xDC00 ≤ unit && unit < 0xE000

def joinSurrogates (high low : Nat) : Char :=
  .ofNat (0x10000 + (high - 0xD800) * 0x400 + (low - 0xDC00))

/-- The next character of a string, which is not its closing quote, with the number of characters that write it. -/
def stringChar? : List Char → Option (Char × Nat)
  | '\\' :: 'u' :: a :: b :: c :: d :: rest => do
    let unit ← hexUnit? a b c d
    if isLowSurrogate unit then none
    else if isHighSurrogate unit then
      match rest with
      | '\\' :: 'u' :: e :: f :: g :: h :: _ =>
        let low ← hexUnit? e f g h
        if isLowSurrogate low then some (joinSurrogates unit low, 12) else none
      | _ => none
    else some (.ofNat unit, 6)
  | '\\' :: c :: _ => (shortEscape? c).map (·, 2)
  | c :: _ => if c.toNat < 32 then none else some (c, 1)
  | [] => none

/-- The characters of a string up to its closing quote, and how many characters write them and the quote. -/
def stringBody? : List Char → Option (List Char × Nat)
  | [] => none
  | first :: more =>
    if first = '"' then some ([], 1)
    else
      match stringChar? (first :: more) with
      | none => none
      | some (c, width) =>
        (stringBody? (more.drop (width - 1))).map fun (cs, n) => (c :: cs, width + n)
termination_by text => text.length
decreasing_by grind [List.length_drop]

/-- Reads digits into a significand as long as it stays below `2 ^ 64`, and gives the digits left over. -/
def absorb (significand : Nat) : List Char → Nat × List Char
  | [] => (significand, [])
  | c :: rest =>
    let next := 10 * significand + Decimal.digitValue c
    if next < Nat.pow 2 64 then absorb next rest else (significand, c :: rest)

/-- The significand times the power of ten, each step rounded; `none` beyond the doubles. -/
def scale? (significand : Nat) (exponent : Int) : Option Float :=
  let f := Float.ofNat significand
  let power := fun (e : Nat) => Float.ofScientific 1 false e
  let e := exponent.natAbs
  if 0 ≤ exponent then
    if e ≤ 308 then
      let scaled := f * power e
      if scaled.isInf then none else some scaled
    else if significand = 0 then some f
    else none
  else if e ≤ 308 then some (f / power e)
  else if e ≤ 616 then some (f / power 308 / power (e - 308))
  else some 0

def exponent? : List Char → Option (Option Int × Nat)
  | [] => some (none, 0)
  | c :: rest =>
    if c = 'e' ∨ c = 'E' then
      let (negative, ds) := Decimal.splitSign rest
      let digits := ds.takeWhile Char.isDigit
      if digits = [] then none
      else
        let n : Int := Decimal.natOfDigits digits
        some (some (if negative then -n else n), 1 + (rest.length - ds.length) + digits.length)
    else some (none, 0)

/-- The digits of a fraction part, if one is there. -/
def fraction? : List Char → Option (Option (List Char))
  | '.' :: rest =>
    let digits := rest.takeWhile Char.isDigit
    if digits = [] then none else some (some digits)
  | _ => some none

/-- A whole number when it is one within 64 bits, else a double. -/
def numberValue (negative : Bool) (whole : List Char) (fraction : Option (List Char))
    (exponent : Option Int) : Reading :=
  let (significand, beyond) := absorb 0 whole
  let signed := fun (x : Float) => if negative then -x else x
  match beyond, fraction, exponent with
  | [], none, none =>
    if !negative then .int significand
    else if significand = 0 ∨ Nat.pow 2 63 < significand then .float (-(Float.ofNat significand))
    else .int (-(significand : Int))
  | _, _, _ =>
    let digits := fraction.getD []
    let (full, unread) := absorb significand digits
    let e := (beyond.length : Int) - (digits.length - unread.length : Nat) + exponent.getD 0
    match scale? full e with
    | some x => .float (signed x)
    | none => .float (signed (1.0 / 0.0))

def number? (text : List Char) : Option (Reading × Nat) := do
  let negative := text.head? = some '-'
  let ds := if negative then text.drop 1 else text
  let whole := ds.takeWhile Char.isDigit
  if whole = [] ∨ (1 < whole.length ∧ whole.head? = some '0') then none
  else
    let rest := ds.drop whole.length
    let fraction ← fraction? rest
    let pointed := match fraction with
      | some digits => 1 + digits.length
      | none => 0
    let (exponent, width) ← exponent? (rest.drop pointed)
    return (numberValue negative whole fraction exponent,
      (if negative then 1 else 0) + whole.length + pointed + width)

def word? (word : String) (value : Reading) (text : List Char) : Option (Reading × Nat) :=
  if word.toList.isPrefixOf text then some (value, word.toList.length) else none

/-- A value that holds no others, and how many characters write it. -/
def scalar? (text : List Char) : Option (Reading × Nat) :=
  match text with
  | 'n' :: _ => word? "null" .null text
  | 't' :: _ => word? "true" (.bool true) text
  | 'f' :: _ => word? "false" (.bool false) text
  | '"' :: rest => (stringBody? rest).map fun (cs, width) => (.str (.ofList cs), width + 1)
  | _ => number? text

inductive Token where
  | openArray
  | closeArray
  | openObject
  | closeObject
  | comma
  | colon
  | scalar (value : Reading)
  | bad

/-- The tokens of a text up to the first place where none can be read. -/
def tokens : List Char → List Token
  | [] => []
  | c :: rest =>
    if isBlank c then tokens rest
    else if c = '[' then .openArray :: tokens rest
    else if c = ']' then .closeArray :: tokens rest
    else if c = '\x7b' then .openObject :: tokens rest
    else if c = '\x7d' then .closeObject :: tokens rest
    else if c = ',' then .comma :: tokens rest
    else if c = ':' then .colon :: tokens rest
    else
      match scalar? (c :: rest) with
      | none => [.bad]
      | some (value, width) => .scalar value :: tokens (rest.drop (width - 1))
termination_by text => text.length
decreasing_by all_goals grind [List.length_drop]

/-- What follows a value, unless the text broke off inside it. -/
abbrev After (ts : List Token) := Option { rest : List Token // rest.length < ts.length }

def After.weaken {ts us : List Token} (h : ts.length ≤ us.length) (after : After ts) : After us :=
  after.map fun r => ⟨r.1, Nat.lt_of_lt_of_le r.2 h⟩

mutual

/-- Reads one value; `depth` more containers may be open around its parts. -/
def value (depth : Nat) (ts : List Token) : Reading × After ts :=
  match ts, depth with
  | .scalar r :: rest, _ => (r, some ⟨rest, Nat.lt_succ_self _⟩)
  | .openArray :: .closeArray :: rest, _ + 1 => (.arr [], some ⟨rest, by grind⟩)
  | .openObject :: .closeObject :: rest, _ + 1 => (.obj [], some ⟨rest, by grind⟩)
  | .openArray :: rest, d + 1 =>
    let (items, after) := elements d rest
    (.arr items, after.weaken (Nat.le_succ _))
  | .openObject :: rest, d + 1 =>
    let (ms, after) := members d rest
    (.obj ms, after.weaken (Nat.le_succ _))
  | _, _ => (.broken, none)
termination_by (ts.length, 0)

def elements (depth : Nat) (ts : List Token) : List Reading × After ts :=
  match value depth ts with
  | (v, none) => ([v], none)
  | (v, some ⟨.closeArray :: rest, h⟩) => ([v], some ⟨rest, by simp at h; omega⟩)
  | (v, some ⟨.comma :: rest, h⟩) =>
    let (vs, after) := elements depth rest
    (v :: vs, after.weaken (by simp at h; omega))
  | (v, some _) => ([v, .broken], none)
termination_by (ts.length, 1)
decreasing_by all_goals grind

def members (depth : Nat) (ts : List Token) : List (String × Reading) × After ts :=
  match ts with
  | .scalar (.str name) :: .colon :: rest =>
    match value depth rest with
    | (v, none) => ([(name, v)], none)
    | (v, some ⟨.closeObject :: rest', h⟩) =>
      ([(name, v)], some ⟨rest', by simp at h ⊢; omega⟩)
    | (v, some ⟨.comma :: rest', h⟩) =>
      let (ms, after) := members depth rest'
      ((name, v) :: ms, after.weaken (by simp at h ⊢; omega))
    | (v, some _) => ([(name, v), ("", .broken)], none)
  | .scalar (.str name) :: _ => ([(name, .broken)], none)
  | _ => ([("", .broken)], none)
termination_by (ts.length, 1)
decreasing_by all_goals grind

end

end Scan

def depthLimit : Nat := 127

structure Document where
  value : Reading
  complete : Bool

def document (text : String) : Document :=
  match Scan.value depthLimit (Scan.tokens text.toList) with
  | (r, some ⟨[], _⟩) => ⟨r, true⟩
  | (r, _) => ⟨r, false⟩

end Reading

end HybridSearch
