import HybridSearch.Text.AlphanumericTable
import HybridSearch.Text.CaseTable
import HybridSearch.Text.WordTable

/-!
Classes of characters. On ASCII each class is given outright, above it by a table.
-/

namespace HybridSearch.Text

/-- Membership in a set given by the places where it begins and ends in turn. -/
def within (bounds : List Nat) (n : Nat) : Bool :=
  (bounds.takeWhile (· ≤ n)).length % 2 = 1

def CaseRun.contains (run : CaseRun) (n : Nat) : Bool :=
  run.first ≤ n && n ≤ run.last && (n - run.first) % run.stride = 0

def isAscii (c : Char) : Bool := c.toNat < 128

def isSpace (c : Char) : Bool :=
  if isAscii c then c = ' ' || (9 ≤ c.toNat && c.toNat ≤ 13) else within spaceBounds c.toNat

/-- Letters and numbers of any script. -/
def isAlphanumeric (c : Char) : Bool :=
  if isAscii c then c.isAlphanum else within alphanumericBounds c.toNat

/-- What a word may hold: letters, marks, decimal digits, connectors and joiners. -/
def isWord (c : Char) : Bool :=
  if isAscii c then c.isAlphanum || c = '_' else within wordBounds c.toNat

def isDecimal (c : Char) : Bool :=
  if isAscii c then c.isDigit else within decimalBounds c.toNat

def isUppercase (c : Char) : Bool :=
  if isAscii c then c.isUpper else uppercaseRuns.any (·.contains c.toNat)

def isCased (c : Char) : Bool :=
  if isAscii c then c.isAlpha else within casedBounds c.toNat

def isCaseIgnorable (c : Char) : Bool :=
  if isAscii c then c = '\'' || c = '.' || c = ':' || c = '^' || c = '\x60'
  else within caseIgnorableBounds c.toNat

/-- The lowercase form of one character; only the dotted capital I has one of two characters. -/
def lowerChar (c : Char) : List Char :=
  if isAscii c then [c.toLower]
  else if c = '\u0130' then ['i', '\u0307']
  else
    match lowercaseRuns.find? (·.contains c.toNat) with
    | some run => [.ofNat (c.toNat + run.shift).toNat]
    | none => [c]

end HybridSearch.Text
