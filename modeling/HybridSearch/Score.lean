/-!
Relevance scores. A score is a double that keeps the sign of an undefined value, so that every two scores are ordered:
the undefined negative one comes first, then the infinities and numbers, then the undefined positive one.
-/

namespace HybridSearch

structure Score where
  bits : UInt64
deriving DecidableEq, Repr, Inhabited

namespace Score

def signBit : UInt64 := 0x8000000000000000

def infinityBits : UInt64 := 0x7FF0000000000000

def ofFloat (x : Float) : Score := ⟨x.toBits⟩

def toFloat (s : Score) : Float := .ofBits s.bits

def magnitudeBits (s : Score) : UInt64 := s.bits &&& 0x7FFFFFFFFFFFFFFF

def isNaN (s : Score) : Bool := infinityBits < s.magnitudeBits

def isFinite (s : Score) : Bool := s.magnitudeBits < infinityBits

/-- What an operation without a defined result gives. -/
def undefined : Score := ⟨0xFFF8000000000000⟩

def negativeZero : Score := ⟨signBit⟩

/-- An undefined operand is the result, the first before the second. -/
def lift (op : Float → Float → Float) (x y : Score) : Score :=
  if x.isNaN then x
  else if y.isNaN then y
  else
    let z := op x.toFloat y.toFloat
    if z.isNaN then undefined else ofFloat z

def mul : Score → Score → Score := lift (· * ·)

def add : Score → Score → Score := lift (· + ·)

instance : Mul Score := ⟨mul⟩

instance : Add Score := ⟨add⟩

/-- Adds from left to right, starting at negative zero. -/
def sum (scores : List Score) : Score := scores.foldl (· + ·) negativeZero

/-- The place of a score in the total order. -/
def rank (s : Score) : Int :=
  if s.bits < signBit then s.bits.toNat else -(s.magnitudeBits.toNat : Int) - 1

instance : Ord Score := ⟨fun x y => compare x.rank y.rank⟩

end Score

end HybridSearch
