/-!
Doubles as exact numbers. A finite double is `mantissa * 2 ^ exponent` up to its sign, and the doubles of single
precision are those with a mantissa of 24 bits.
-/

namespace HybridSearch

structure Magnitude where
  mantissa : Nat
  exponent : Int
deriving DecidableEq, Repr

namespace Magnitude

/-- The absolute value of a finite double, read off its bit pattern. -/
def ofBits (bits : UInt64) : Magnitude :=
  let fraction : Nat := bits.toNat % Nat.pow 2 52
  let biased : Nat := bits.toNat / Nat.pow 2 52 % Nat.pow 2 11
  if biased = 0 then ⟨fraction, -1074⟩ else ⟨Nat.pow 2 52 + fraction, (biased : Int) - 1075⟩

def ofFloat (x : Float) : Magnitude := ofBits x.toBits

def overPowerOfTen (m : Magnitude) (k : Int) : Nat × Nat :=
  (m.mantissa * Nat.pow 2 m.exponent.toNat * Nat.pow 10 (-k).toNat,
    Nat.pow 2 (-m.exponent).toNat * Nat.pow 10 k.toNat)

def leadingExponent (m : Magnitude) : Int :=
  let guess := Int.fdiv ((Nat.log2 m.mantissa + m.exponent) * 30103) 100000
  let (n, d) := m.overPowerOfTen (guess + 1)
  if d ≤ n then guess + 1 else guess

end Magnitude

/-- The quotient rounded to the nearest integer, a half going to the even neighbour. -/
def divRoundEven (n d : Nat) : Nat :=
  let q := n / d
  let r := n % d
  if 2 * r < d then q
  else if d < 2 * r then q + 1
  else if q % 2 = 0 then q else q + 1

def powerOfTwo (e : Int) : Float :=
  .ofBits (.ofNat ((e + 1023).toNat * Nat.pow 2 52))

/-- The single-precision number nearest to a magnitude, a tie going to the even mantissa; what reaches `2 ^ 128` after
rounding is infinite. -/
def Magnitude.toSingle (m : Magnitude) : Float :=
  let e := max (Nat.log2 m.mantissa + m.exponent - 23) (-149)
  let shift := e - m.exponent
  let rounded := divRoundEven (m.mantissa * Nat.pow 2 (-shift).toNat) (Nat.pow 2 shift.toNat)
  if Nat.pow 2 128 ≤ rounded * Nat.pow 2 e.toNat then 1.0 / 0.0
  else Float.ofNat rounded * powerOfTwo e

def toSingle (x : Float) : Float :=
  if !x.isFinite then x
  else
    let size := (Magnitude.ofFloat x).toSingle
    if x.toBits ≥ 0x8000000000000000 then -size else size

def singleOfInt (n : Int) : Float :=
  let size := (Magnitude.mk n.natAbs 0).toSingle
  if n < 0 then -size else size

end HybridSearch
