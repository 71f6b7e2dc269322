import HybridSearch.Text.Basic

/-!
English stems by suffix stripping. A suffix is replaced only inside the regions of a word that follow its first and
second vowel-consonant step, so short words keep their shape.
-/

namespace HybridSearch.Language.Stem

/-- A lone `Y` stands for a consonantal y while a word is stemmed. -/
def isVowel (c : Char) : Bool := "aeiouy".toList.contains c

def isShortEnd (c : Char) : Bool := !("aeiouywxY".toList.contains c)

/-- Marks each y that begins the word or follows a vowel as a consonant. -/
def markConsonantY (afterVowel : Bool) : List Char → List Char
  | [] => []
  | c :: rest =>
    let c' := if c = 'y' && afterVowel then 'Y' else c
    c' :: markConsonantY (isVowel c') rest

/-- What follows the first consonant after the first vowel. -/
def afterStep (cs : List Char) : List Char :=
  ((cs.dropWhile (!isVowel ·)).dropWhile isVowel).drop 1

def fixedStarts : List (List Char) := ["gener", "commun", "arsen"].map String.toList

/-- A word under way and where its two regions begin. -/
structure Word where
  chars : List Char
  region₁ : Nat
  region₂ : Nat

namespace Word

def ofChars (cs : List Char) : Word :=
  let marked := markConsonantY true cs
  let rest₁ := match fixedStarts.find? (·.isPrefixOf marked) with
    | some start => marked.drop start.length
    | none => afterStep marked
  ⟨marked, marked.length - rest₁.length, marked.length - (afterStep rest₁).length⟩

/-- What stands before a suffix. -/
def before (w : Word) (suffix : List Char) : List Char :=
  w.chars.take (w.chars.length - suffix.length)

def inRegion₁ (w : Word) (suffix : List Char) : Bool := w.region₁ ≤ (w.before suffix).length

def inRegion₂ (w : Word) (suffix : List Char) : Bool := w.region₂ ≤ (w.before suffix).length

def replace (w : Word) (suffix replacement : List Char) : Word :=
  { w with chars := w.before suffix ++ replacement }

def suffix? (w : Word) (suffixes : List String) : Option (List Char) :=
  let fitting := (suffixes.map String.toList).filter (·.isSuffixOf w.chars)
  fitting.foldl (fun best s =>
    match best with
    | none => some s
    | some b => if b.length < s.length then some s else some b) none

end Word

/-- Whether a word ends in a short syllable. -/
def endsShort (cs : List Char) : Bool :=
  match cs.reverse with
  | [c, v] => !isVowel c && isVowel v
  | c :: v :: b :: _ => isShortEnd c && isVowel v && !isVowel b
  | _ => false

def plural (w : Word) : Word :=
  match w.suffix? ["sses", "ied", "ies", "s", "us", "ss"] with
  | some s =>
    let rest := w.before s
    if s = "sses".toList then w.replace s "ss".toList
    else if s.length = 3 then
      w.replace s (if 2 ≤ rest.length then "i".toList else "ie".toList)
    else if s.length = 1 ∧ rest.dropLast.any isVowel then w.replace s []
    else w
  | none => w

def invariantAfterPlural : List String :=
  ["inning", "outing", "canning", "herring", "earring", "proceed", "exceed", "succeed"]

def mendEnd (w : Word) : Word :=
  match w.suffix? ["at", "bl", "iz", "bb", "dd", "ff", "gg", "mm", "nn", "pp", "rr", "tt"] with
  | some s =>
    if ["at", "bl", "iz"].contains (String.ofList s) then { w with chars := w.chars ++ ['e'] }
    else { w with chars := w.chars.dropLast }
  | none =>
    if w.chars.length = w.region₁ ∧ endsShort w.chars then { w with chars := w.chars ++ ['e'] }
    else w

def participle (w : Word) : Word :=
  match w.suffix? ["eed", "eedly", "ed", "edly", "ing", "ingly"] with
  | some s =>
    if "eed".toList.isPrefixOf s then
      if w.inRegion₁ s then w.replace s "ee".toList else w
    else if (w.before s).any isVowel then mendEnd (w.replace s [])
    else w
  | none => w

def finalY (w : Word) : Word :=
  match w.chars.reverse with
  | y :: c :: b :: rest =>
    if (y = 'y' ∨ y = 'Y') ∧ !isVowel c then { w with chars := ('i' :: c :: b :: rest).reverse }
    else w
  | _ => w

/-- A suffix, what replaces it, and the letters of which one has to precede it, if it asks for one. -/
structure Rule where
  suffix : String
  replacement : String
  preceding : String

def Rule.precededIn (r : Rule) (w : Word) : Bool :=
  r.preceding = "" ||
    match (w.before r.suffix.toList).getLast? with
    | some c => r.preceding.toList.contains c
    | none => false

def applyRules (rules : List Rule) (inRegion : Rule → Word → List Char → Bool) (w : Word) : Word :=
  match w.suffix? (rules.map (·.suffix)) with
  | none => w
  | some s =>
    match rules.find? (·.suffix.toList = s) with
    | some r => if inRegion r w s && r.precededIn w then w.replace s r.replacement.toList else w
    | none => w

def derivationRules : List Rule := [
  ⟨"tional", "tion", ""⟩, ⟨"enci", "ence", ""⟩, ⟨"anci", "ance", ""⟩, ⟨"abli", "able", ""⟩,
  ⟨"entli", "ent", ""⟩, ⟨"izer", "ize", ""⟩, ⟨"ization", "ize", ""⟩, ⟨"ational", "ate", ""⟩,
  ⟨"ation", "ate", ""⟩, ⟨"ator", "ate", ""⟩, ⟨"alism", "al", ""⟩, ⟨"aliti", "al", ""⟩,
  ⟨"alli", "al", ""⟩, ⟨"fulness", "ful", ""⟩, ⟨"ousli", "ous", ""⟩, ⟨"ousness", "ous", ""⟩,
  ⟨"iveness", "ive", ""⟩, ⟨"iviti", "ive", ""⟩, ⟨"biliti", "ble", ""⟩, ⟨"bli", "ble", ""⟩,
  ⟨"ogi", "og", "l"⟩, ⟨"fulli", "ful", ""⟩, ⟨"lessli", "less", ""⟩, ⟨"li", "", "cdeghkmnrt"⟩]

def derivation : Word → Word := applyRules derivationRules fun _ w s => w.inRegion₁ s

def endingRules : List Rule := [
  ⟨"tional", "tion", ""⟩, ⟨"ational", "ate", ""⟩, ⟨"alize", "al", ""⟩, ⟨"icate", "ic", ""⟩,
  ⟨"iciti", "ic", ""⟩, ⟨"ical", "ic", ""⟩, ⟨"ful", "", ""⟩, ⟨"ness", "", ""⟩, ⟨"ative", "", ""⟩]

def ending : Word → Word :=
  applyRules endingRules fun r w s =>
    w.inRegion₁ s && (r.suffix ≠ "ative" || w.inRegion₂ s)

def residueRules : List Rule :=
  ["al", "ance", "ence", "er", "ic", "able", "ible", "ant", "ement", "ment", "ent", "ism", "ate",
    "iti", "ous", "ive", "ize"].map (⟨·, "", ""⟩) ++ [⟨"ion", "", "st"⟩]

def residue : Word → Word := applyRules residueRules fun _ w s => w.inRegion₂ s

def finalLetter (w : Word) : Word :=
  match w.chars.getLast? with
  | some 'e' =>
    let rest := w.chars.dropLast
    if w.inRegion₂ ['e'] || (w.inRegion₁ ['e'] && !endsShort rest) then { w with chars := rest }
    else w
  | some 'l' =>
    let rest := w.chars.dropLast
    if w.inRegion₂ ['l'] && rest.getLast? = some 'l' then { w with chars := rest } else w
  | _ => w

def exceptions : List (String × String) := [
  ("skis", "ski"), ("skies", "sky"), ("dying", "die"), ("lying", "lie"), ("tying", "tie"),
  ("idly", "idl"), ("gently", "gentl"), ("ugly", "ugli"), ("early", "earli"), ("only", "onli"),
  ("singly", "singl"), ("sky", "sky"), ("news", "news"), ("howe", "howe"), ("atlas", "atlas"),
  ("cosmos", "cosmos"), ("bias", "bias"), ("andes", "andes")]

def unmarkY (cs : List Char) : List Char := cs.map fun c => if c = 'Y' then 'y' else c

def regular (cs : List Char) : List Char :=
  let w := plural (.ofChars cs)
  if invariantAfterPlural.contains (.ofList w.chars) then unmarkY w.chars
  else unmarkY (finalLetter (residue (ending (derivation (finalY (participle w)))))).chars

def ofWord (cs : List Char) : List Char :=
  match exceptions.lookup (.ofList cs) with
  | some stem => stem.toList
  | none => if cs.length < 3 then cs else regular cs

/-- Index forms of a noun in `y` and of its plural agree once a final i is dropped from a stem of four or more. -/
def dropFinalI (cs : List Char) : List Char :=
  if 3 < cs.length ∧ cs.getLast? = some 'i' then cs.dropLast else cs

/-- The stem of an alphanumeric piece in any case. -/
def ofPiece (cs : List Char) : List Char := dropFinalI (ofWord (cs.flatMap Text.lowerChar))

end Stem

/-- The stems of the alphanumeric pieces of a word, with single blanks between them. -/
def stem (word : String) : String :=
  " ".intercalate ((Text.runs Text.isAlphanumeric word.toList).map fun p => .ofList (Stem.ofPiece p))

end HybridSearch.Language
