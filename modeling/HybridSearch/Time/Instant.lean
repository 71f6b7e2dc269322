import HybridSearch.Decimal.Literal
import HybridSearch.Text.Basic

/-!
Points of time in the proleptic Gregorian calendar, read with an offset and written in universal time.
-/

namespace HybridSearch.Time

/-- Seconds since 1970, and billionths of a second; a leap second has more than a whole second of them. -/
structure Instant where
  seconds : Int
  nanos : Nat
deriving DecidableEq, Repr

structure Date where
  year : Int
  month : Nat
  day : Nat
deriving DecidableEq, Repr

namespace Date

def isLeap (year : Int) : Bool := year % 4 = 0 && (year % 100 ≠ 0 || year % 400 = 0)

def daysInMonth (year : Int) (month : Nat) : Nat :=
  if month = 2 then (if isLeap year then 29 else 28)
  else if [4, 6, 9, 11].contains month then 30
  else 31

def isValid (d : Date) : Bool :=
  1 ≤ d.month && d.month ≤ 12 && 1 ≤ d.day && d.day ≤ daysInMonth d.year d.month &&
    -262143 ≤ d.year && d.year ≤ 262142

/-- Days since 1970; the year is counted from March, so that a leap day ends it. -/
def dayNumber (d : Date) : Int :=
  let y := if d.month ≤ 2 then d.year - 1 else d.year
  let era := Int.fdiv y 400
  let yearOfEra := y - era * 400
  let monthFromMarch : Int := ((d.month + 9) % 12 : Nat)
  let dayOfYear := (153 * monthFromMarch + 2) / 5 + d.day - 1
  let dayOfEra := yearOfEra * 365 + yearOfEra / 4 - yearOfEra / 100 + dayOfYear
  era * 146097 + dayOfEra - 719468

def ofDayNumber (n : Int) : Date :=
  let z := n + 719468
  let era := Int.fdiv z 146097
  let dayOfEra := z - era * 146097
  let yearOfEra := (dayOfEra - dayOfEra / 1460 + dayOfEra / 36524 - dayOfEra / 146096) / 365
  let dayOfYear := dayOfEra - (365 * yearOfEra + yearOfEra / 4 - yearOfEra / 100)
  let m := (5 * dayOfYear + 2) / 153
  let day := dayOfYear - (153 * m + 2) / 5 + 1
  let month := if m < 10 then m + 3 else m - 9
  let year := yearOfEra + era * 400 + (if month ≤ 2 then 1 else 0)
  ⟨year, month.toNat, day.toNat⟩

end Date

/-- What is left of a text after a part of it was read. -/
abbrev Scan (α : Type) := StateT (List Char) Option α

namespace Scan

def skipSpace : Scan Unit := modify (·.dropWhile Text.isSpace)

def digits (most : Nat) : Scan (List Char) := do
  let ds := ((← get).take most).takeWhile Char.isDigit
  if ds = [] then failure
  else
    modify (·.drop ds.length)
    return ds

def number (most : Nat) : Scan Nat := do
  skipSpace
  return Decimal.natOfDigits (← digits most)

def exactly (c : Char) : Scan Unit := do
  match ← get with
  | d :: rest => if c = d then set rest else failure
  | [] => failure

/-- A year of four digits at most, or of any number after a sign. -/
def year : Scan Int := do
  skipSpace
  match ← get with
  | '-' :: rest =>
    set rest
    return -(Decimal.natOfDigits (← digits rest.length) : Int)
  | '+' :: rest =>
    set rest
    return Decimal.natOfDigits (← digits rest.length)
  | _ => return Decimal.natOfDigits (← digits 4)

def separator (c : Char) : Scan Unit := do
  skipSpace
  exactly c

def date : Scan Date := do
  let y ← year
  separator '-'
  let m ← number 2
  separator '-'
  let d ← number 2
  return ⟨y, m, d⟩

def dateEnd : Scan Unit := do
  match ← get with
  | c :: rest => if c = 't' ∨ c = 'T' ∨ c = ' ' then set rest else failure
  | [] => failure

/-- A fraction of a second in billionths; digits beyond the ninth are dropped. -/
def fraction : Scan Nat := do
  match ← get with
  | '.' :: rest =>
    set rest
    let ds ← digits 9
    modify (·.dropWhile Char.isDigit)
    return Decimal.natOfDigits ds * Nat.pow 10 (9 - ds.length)
  | _ => return 0

def pair (bound : Nat) : Scan Nat := do
  match ← get with
  | a :: b :: rest =>
    if a.isDigit ∧ b.isDigit ∧ Decimal.digitValue a < bound then
      set rest
      return 10 * Decimal.digitValue a + Decimal.digitValue b
    else failure
  | _ => failure

def startsWithUtc (cs : List Char) : Bool := (cs.take 3).map Char.toUpper = ['U', 'T', 'C']

/-- The distance of local from universal time in seconds. -/
def offset : Scan Int := do
  skipSpace
  let cs ← get
  if startsWithUtc cs then
    set (cs.drop 3)
    return 0
  else
    match cs with
    | c :: rest =>
      set rest
      if c = 'Z' ∨ c = 'z' then return 0
      else if c = '+' ∨ c = '-' ∨ c = '−' then
        let hours ← pair 10
        modify (·.dropWhile fun c => c = ':' || Text.isSpace c)
        let minutes ← pair 6
        let seconds : Int := (hours * 3600 + minutes * 60 : Nat)
        return if c = '+' then seconds else -seconds
      else failure
    | [] => failure

def instant : Scan Instant := do
  let date ← date
  dateEnd
  let hour ← number 2
  separator ':'
  let minute ← number 2
  separator ':'
  let second ← number 2
  let nanos ← fraction
  let offset ← offset
  skipSpace
  if (← get) ≠ [] ∨ !date.isValid ∨ 23 < hour ∨ 59 < minute ∨ 60 < second ∨ 86400 ≤ offset.natAbs then failure
  else
    let whole : Int := (hour * 3600 + minute * 60 + min second 59 : Nat)
    let leap := if second = 60 then 1000000000 else 0
    return ⟨date.dayNumber * 86400 + whole - offset, nanos + leap⟩

end Scan

namespace Instant

def parse? (text : String) : Option Instant := (Scan.instant.run text.toList).map (·.1)

def padded (width n : Nat) : List Char :=
  let ds := Nat.toDigits 10 n
  List.replicate (width - ds.length) '0' ++ ds

def yearChars (year : Int) : List Char :=
  if 0 ≤ year ∧ year ≤ 9999 then padded 4 year.toNat
  else (if year < 0 then '-' else '+') :: padded 4 year.natAbs

/-- Three, six or nine places, as many as are needed. -/
def fractionChars (nanos : Nat) : List Char :=
  if nanos = 0 then []
  else if nanos % 1000000 = 0 then '.' :: padded 3 (nanos / 1000000)
  else if nanos % 1000 = 0 then '.' :: padded 6 (nanos / 1000)
  else '.' :: padded 9 nanos

def text (t : Instant) : String :=
  let date := Date.ofDayNumber (Int.fdiv t.seconds 86400)
  let clock := (Int.fmod t.seconds 86400).toNat
  let leap := 1000000000 ≤ t.nanos
  let second := clock % 60 + (if leap then 1 else 0)
  let nanos := if leap then t.nanos - 1000000000 else t.nanos
  .ofList (yearChars date.year ++ '-' :: padded 2 date.month ++ '-' :: padded 2 date.day ++
    'T' :: padded 2 (clock / 3600) ++ ':' :: padded 2 (clock / 60 % 60) ++ ':' :: padded 2 second ++
    fractionChars nanos ++ ['Z'])

end Instant

end HybridSearch.Time
