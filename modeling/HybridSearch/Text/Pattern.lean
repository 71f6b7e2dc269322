/-!
Regular patterns over characters, matched against a whole text by taking one derivative per character.
-/

namespace HybridSearch.Text

inductive Pattern where
  | never
  | empty
  | one (p : Char → Bool)
  | seq (first second : Pattern)
  | alt (first second : Pattern)
  | star (body : Pattern)

namespace Pattern

def char (c : Char) : Pattern := one (· = c)

/-- The texts a pattern stands for. -/
inductive Matches : Pattern → List Char → Prop
  | empty : Matches .empty []
  | one {p : Char → Bool} {c : Char} (h : p c) : Matches (.one p) [c]
  | seq {a b : Pattern} {s t : List Char} (ha : Matches a s) (hb : Matches b t) :
      Matches (.seq a b) (s ++ t)
  | altLeft {a b : Pattern} {s : List Char} (h : Matches a s) : Matches (.alt a b) s
  | altRight {a b : Pattern} {s : List Char} (h : Matches b s) : Matches (.alt a b) s
  | starNil {a : Pattern} : Matches (.star a) []
  | starCons {a : Pattern} {s t : List Char} (h : Matches a s) (ht : Matches (.star a) t) :
      Matches (.star a) (s ++ t)

def literal (s : String) : Pattern := s.toList.foldr (fun c rest => seq (char c) rest) empty

def optional (a : Pattern) : Pattern := alt a empty

def plus (a : Pattern) : Pattern := seq a (star a)

def repeated (a : Pattern) : Nat → Pattern
  | 0 => empty
  | n + 1 => seq a (repeated a n)

/-- At most `n` repetitions. -/
def upTo (a : Pattern) : Nat → Pattern
  | 0 => empty
  | n + 1 => optional (seq a (upTo a n))

/-- At least `m` repetitions and at most `n` more. -/
def between (a : Pattern) (m n : Nat) : Pattern := seq (repeated a m) (upTo a n)

def all (parts : List Pattern) : Pattern := parts.foldr seq empty

def any (choices : List Pattern) : Pattern := choices.foldr alt never

def nullable : Pattern → Bool
  | never => false
  | empty => true
  | one _ => false
  | seq a b => a.nullable && b.nullable
  | alt a b => a.nullable || b.nullable
  | star _ => true

/-- A sequence, unless a part settles it. -/
def seq' : Pattern → Pattern → Pattern
  | never, _ => never
  | _, never => never
  | empty, b => b
  | a, b => seq a b

/-- An alternative, unless a side stands for nothing. -/
def alt' : Pattern → Pattern → Pattern
  | never, b => b
  | a, never => a
  | a, b => alt a b

/-- What may follow a first character. -/
def derivative (c : Char) : Pattern → Pattern
  | never => never
  | empty => never
  | one p => if p c then empty else never
  | seq a b =>
    if a.nullable then alt' (seq' (a.derivative c) b) (b.derivative c) else seq' (a.derivative c) b
  | alt a b => alt' (a.derivative c) (b.derivative c)
  | star a => seq' (a.derivative c) (star a)

def accepts (a : Pattern) : List Char → Bool
  | [] => a.nullable
  | c :: rest => (a.derivative c).accepts rest

end Pattern

end HybridSearch.Text
