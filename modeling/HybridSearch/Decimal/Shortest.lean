import HybridSearch.Decimal.Magnitude

/-!
The shortest decimal that reads back as a given double, and its two written forms: plain positional digits for
messages, and the JSON form that turns to an exponent outside `1e-5 ≤ |x| < 1e16`.
-/

namespace HybridSearch

structure Decimal where
  digits : Nat
  exponent : Int
deriving DecidableEq, Repr

namespace Decimal

/-- Whether `d * 10 ^ k` lies among the reals that round to `m`; the ends belong to it when the mantissa is even. -/
def readsBack (m : Magnitude) (d : Nat) (k : Int) : Bool :=
  let value := 4 * d * Nat.pow 10 k.toNat * Nat.pow 2 (-m.exponent).toNat
  let unit := Nat.pow 2 m.exponent.toNat * Nat.pow 10 (-k).toNat
  let below := if m.mantissa = Nat.pow 2 52 ∧ -1074 < m.exponent then 1 else 2
  let low := (4 * m.mantissa - below) * unit
  let high := (4 * m.mantissa + 2) * unit
  if m.mantissa % 2 = 0 then low ≤ value && value ≤ high else low < value && value < high

/-- The nearest multiple of `10 ^ k` that reads back as `m`, if one does. -/
def nearestOnGrid (m : Magnitude) (k : Int) : Option Nat :=
  let (n, d) := m.overPowerOfTen k
  let q := n / d
  match readsBack m q k, readsBack m (q + 1) k with
  | true, true => some (divRoundEven n d)
  | true, false => some q
  | false, true => some (q + 1)
  | false, false => none

def ofGrid (d : Nat) (k : Int) : Decimal :=
  if d % 10 = 0 then ⟨d / 10, k + 1⟩ else ⟨d, k⟩

/-- Tries one digit, then two, and so on; seventeen digits always read back. -/
def shortest (m : Magnitude) : Decimal :=
  if m.mantissa = 0 then ⟨0, 0⟩
  else
    let top := m.leadingExponent
    let found := (List.range 17).findSome? fun (i : Nat) =>
      (nearestOnGrid m (top - i)).map (ofGrid · (top - i))
    found.getD ⟨m.mantissa, m.exponent⟩

def digitChars (d : Decimal) : List Char := Nat.toDigits 10 d.digits

/-- Digits written out in full, with a point only where one is needed. -/
def plainChars (d : Decimal) : List Char :=
  let ds := d.digitChars
  let whole : Int := ds.length + d.exponent
  if 0 ≤ d.exponent then ds ++ List.replicate d.exponent.toNat '0'
  else if 0 < whole then ds.take whole.toNat ++ '.' :: ds.drop whole.toNat
  else '0' :: '.' :: (List.replicate (-whole).toNat '0' ++ ds)

/-- One digit, the others after a point, and a signed exponent. -/
def scientificChars (d : Decimal) : List Char :=
  let ds := d.digitChars
  let e : Int := ds.length + d.exponent - 1
  let sign := if e < 0 then '-' else '+'
  let lead := if ds.length ≤ 1 then ds else ds.take 1 ++ '.' :: ds.drop 1
  lead ++ 'e' :: sign :: Nat.toDigits 10 e.natAbs

end Decimal

def isNegative (x : Float) : Bool := 0x8000000000000000 ≤ x.toBits

def signed (x : Float) (digits : List Char) : List Char :=
  if isNegative x then '-' :: digits else digits

/-- A double in a message: all digits, no exponent, no point after a whole number. -/
def plainNumber (x : Float) : String :=
  if x.isNaN then "NaN"
  else if x.isInf then (if isNegative x then "-inf" else "inf")
  else .ofList (signed x (Decimal.shortest (.ofFloat x)).plainChars)

/-- A finite double as a JSON number; a whole one keeps a zero after the point. -/
def jsonNumberChars (x : Float) : List Char :=
  let d := Decimal.shortest (.ofFloat x)
  let e : Int := d.digitChars.length + d.exponent
  signed x <|
    if d.digits = 0 then ['0', '.', '0']
    else if e ≤ -5 ∨ 16 < e then d.scientificChars
    else if 0 ≤ d.exponent then d.plainChars ++ ['.', '0']
    else d.plainChars

end HybridSearch
