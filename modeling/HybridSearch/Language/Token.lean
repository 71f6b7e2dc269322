import HybridSearch.Language.Lexicon
import HybridSearch.Text.Basic
import HybridSearch.Text.Pattern

/-!
Tokens of a query and their tags. A token is a run of word characters with inner marks, or one other character; tags
come from word lists, from the patterns of dates, numbers and contact details, and from the neighbouring tokens.
-/

namespace HybridSearch.Language

inductive Tag where
  | noun
  | properNoun
  | verb
  | auxiliary
  | adjective
  | adverb
  | pronoun
  | determiner
  | adposition
  | conjunction
  | particle
  | number
  /-- A date, a time, an address or another recognised detail. -/
  | entity
  | punctuation
deriving DecidableEq, Repr

namespace Token

open Text

def startsToken (c : Char) : Bool := isWord c || c = '$'

def continuesToken (c : Char) : Bool := isWord c || "'@.:/$,+-".toList.contains c

def isTrailingMark (c : Char) : Bool := ".,:/'".toList.contains c

def utf8Length (cs : List Char) : Nat := cs.foldl (fun size c => size + c.utf8Size) 0

/-- Drops sentence marks from the end of a token of more than one byte. -/
def trimMarks (cs : List Char) : List Char :=
  if 1 < utf8Length cs then trimEndWhile isTrailingMark cs else cs

/-- The pieces of a text before their ends are trimmed. -/
def scan : List Char → List (List Char)
  | [] => []
  | c :: rest =>
    if startsToken c then
      (c :: rest.takeWhile continuesToken) :: scan (rest.dropWhile continuesToken)
    else if isSpace c then scan rest
    else [c] :: scan rest
termination_by text => text.length
decreasing_by
  · exact Nat.lt_succ_of_le (List.dropWhile_sublist _).length_le
  · exact Nat.lt_succ_self _
  · exact Nat.lt_succ_self _

def tokenize (text : List Char) : List (List Char) :=
  ((scan text).map trimMarks).filter (!·.isEmpty)

end Token

namespace Entity

open Text Pattern

def decimal : Pattern := one isDecimal

def email : Pattern :=
  all [plus (one fun c => isWord c || ".+-".toList.contains c), char '@',
    plus (one fun c => isWord c || c = '-'),
    plus (seq (char '.') (plus (one fun c => isWord c || c = '-')))]

def url : Pattern :=
  all [any [all [literal "http", optional (char 's'), literal "://"], literal "www."],
    plus (one fun c => !isSpace c)]

def phone : Pattern :=
  let separator := optional (one fun c => c = '-' || c = '.')
  all [optional (char '('), repeated decimal 3, optional (char ')'), separator, repeated decimal 3,
    separator, repeated decimal 4]

def time : Pattern :=
  all [between decimal 1 1, optional (seq (char ':') (repeated decimal 2)),
    any [literal "am", literal "pm"]]

def date : Pattern :=
  let separator := one fun c => c = '/' || c = '-'
  all [between decimal 1 3, separator, between decimal 1 1,
    optional (seq separator (between decimal 1 3))]

def ordinal : Pattern :=
  all [plus decimal, any [literal "st", literal "nd", literal "rd", literal "th"]]

def money : Pattern :=
  all [char '$', decimal, star (one fun c => isDecimal c || c = ','),
    optional (seq (char '.') (plus decimal))]

def patterns : List Pattern := [email, url, phone, time, date, ordinal, money]

def recognised (token lower : List Char) : Bool :=
  Lexicon.months.contains (.ofList lower) || Lexicon.weekdays.contains (.ofList lower) ||
    patterns.any fun p => p.accepts token || p.accepts lower

end Entity

namespace Tag

open Text

/-- The word lists in the order they are asked, `to` before a verb apart. -/
def closedClass? (lower : String) (next : Option String) : Option Tag :=
  if Lexicon.determiners.contains lower then some determiner
  else if Lexicon.pronouns.contains lower then some pronoun
  else if lower = "to" ∧ next.any Lexicon.verbs.contains then some particle
  else if Lexicon.adpositions.contains lower then some adposition
  else if Lexicon.conjunctions.contains lower then some conjunction
  else if Lexicon.auxiliaries.contains lower then some auxiliary
  else if Lexicon.particles.contains lower then some particle
  else if Lexicon.adverbs.contains lower then some adverb
  else if Lexicon.verbs.contains lower then some verb
  else if Lexicon.adjectives.contains lower then some adjective
  else none

def isPlainNumber (lower : List Char) : Bool :=
  lower.all fun c => c.isDigit || c = ',' || c = '.'

/-- The tag of a token after one tagged `prev` and before a token with lowercase form `next`; an open word before an
object pronoun acts as a verb. -/
def ofToken (token : List Char) (prev : Option Tag) (next : Option String) : Tag :=
  let lower := lowerChars token
  if !token.any isAlphanumeric then punctuation
  else if Entity.recognised token lower then entity
  else if isPlainNumber lower then number
  else
    match closedClass? (.ofList lower) next with
    | some tag => tag
    | none =>
      if next.any Lexicon.objectPronouns.contains ∧ prev ≠ some determiner ∧ prev ≠ some adjective then
        verb
      else if prev ≠ none ∧ token.head?.any isUppercase then properNoun
      else noun

end Tag

structure TaggedToken where
  text : String
  tag : Tag
deriving DecidableEq, Repr

def tagTokens (prev : Option Tag) : List (List Char) → List TaggedToken
  | [] => []
  | token :: rest =>
    let tag := Tag.ofToken token prev (rest.head?.map fun t => .ofList (Text.lowerChars t))
    ⟨.ofList token, tag⟩ :: tagTokens (some tag) rest

def tagText (text : String) : List TaggedToken := tagTokens none (Token.tokenize text.toList)

end HybridSearch.Language
