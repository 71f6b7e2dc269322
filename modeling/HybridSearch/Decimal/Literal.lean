/-!
Decimal literals as doubles: digits with at most one point, an optional exponent and sign, and the words for infinity
and for the undefined number.
-/

namespace HybridSearch.Decimal

def digitValue (c : Char) : Nat := c.toNat - '0'.toNat

def natOfDigits (ds : List Char) : Nat :=
  ds.foldl (fun n c => 10 * n + digitValue c) 0

/-- The double nearest to `digits * 10 ^ exponent`; far outside the range the powers need not be built. -/
def toDouble (digits : Nat) (exponent : Int) : Float :=
  let size : Int := (Nat.toDigits 10 digits).length + exponent
  if digits = 0 ∨ size < -330 then 0
  else if 310 < size then 1.0 / 0.0
  else .ofScientific digits (exponent < 0) exponent.natAbs

/-- Splits a leading sign from a text; `true` stands for minus. -/
def splitSign : List Char → Bool × List Char
  | '-' :: rest => (true, rest)
  | '+' :: rest => (false, rest)
  | rest => (false, rest)

def exponentPart : List Char → Option Int
  | [] => some 0
  | c :: rest =>
    let (negative, ds) := splitSign rest
    if c.toLower = 'e' ∧ ds ≠ [] ∧ ds.all Char.isDigit then
      some (if negative then -(natOfDigits ds) else natOfDigits ds)
    else none

def unsignedLiteral? (text : List Char) : Option Float :=
  let lower := text.map Char.toLower
  if lower = "inf".toList ∨ lower = "infinity".toList then some (1.0 / 0.0)
  else if lower = "nan".toList then some (0.0 / 0.0)
  else
    let whole := text.takeWhile Char.isDigit
    let afterWhole := text.dropWhile Char.isDigit
    let (fraction, rest) := match afterWhole with
      | '.' :: more => (more.takeWhile Char.isDigit, more.dropWhile Char.isDigit)
      | more => ([], more)
    if whole = [] ∧ fraction = [] then none
    else
      (exponentPart rest).map fun e =>
        toDouble (natOfDigits (whole ++ fraction)) (e - (fraction.length : Int))

def literal? (text : List Char) : Option Float :=
  let (negative, rest) := splitSign text
  (unsignedLiteral? rest).map fun x => if negative then -x else x

/-- An unsigned whole number below `2 ^ 64`, with an optional plus sign. -/
def unsigned64? (text : List Char) : Option Nat :=
  let ds := match text with
    | '+' :: rest => rest
    | rest => rest
  if ds ≠ [] ∧ ds.all Char.isDigit then
    let n := natOfDigits ds
    if n < Nat.pow 2 64 then some n else none
  else none

end HybridSearch.Decimal
