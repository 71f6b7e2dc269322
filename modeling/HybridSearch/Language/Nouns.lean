import HybridSearch.Language.Stem
import HybridSearch.Language.Token

/-!
The nouns of a query, the generic ones among them, and the stemmed form of a query.
-/

namespace HybridSearch.Language

open Text

/-- Nouns and proper nouns in reading order, in lowercase, each once. -/
def extractNouns (text : String) : List String :=
  (((tagText text).filter fun t => t.tag = .noun || t.tag = .properNoun).map
    fun t => lowercase t.text).eraseDups

/-- The stems of nouns too broad to search for. -/
structure Stoplist where
  stems : List String

namespace Stoplist

def ofNouns (nouns : List String) : Stoplist := ⟨nouns.map stem⟩

def default : Stoplist := ofNouns Lexicon.genericNouns

def isGeneric (stoplist : Stoplist) (stemmed : String) : Bool := stoplist.stems.contains stemmed

def dropGeneric (stoplist : Stoplist) (stems : List String) : List String :=
  stems.filter (!stoplist.isGeneric ·)

def isGenericWord (stoplist : Stoplist) (word : String) : Bool :=
  let lower := lowercase word
  stoplist.isGeneric lower || stoplist.isGeneric (stem lower)

def isAllGeneric (stoplist : Stoplist) (text : String) : Bool :=
  (words text).all stoplist.isGenericWord

end Stoplist

def wordCount (text : String) : Nat := (words text).length

/-- Queries of two words carry too little to take nouns from or to classify. -/
def isShortQuery (text : String) : Bool := wordCount text ≤ 2

def minStemLength : Nat := 3

structure StemmedQuery where
  query : String
  stemmed : String
  /-- Whether the stemmed form says something the query does not. -/
  useful : Bool
  nouns : Option (List String)
deriving DecidableEq, Repr

def stemLong (stoplist : Stoplist) (nouns : List String) : String :=
  " ".intercalate (stoplist.dropGeneric (nouns.map stem))

def stemShortWord (word : String) : String :=
  if minStemLength ≤ word.length then stem word else lowercase word

def stemShort (text : String) : String :=
  " ".intercalate (((words text).map stemShortWord).filter (· ≠ ""))

/-- A long query is reduced to the stems of its nouns that are not generic, a short one is stemmed word by word. -/
def stemQuery (stoplist : Stoplist) (query : String) : StemmedQuery :=
  let typed := trim query
  let lower := lowercase typed
  let useful := fun (stemmed : String) => stemmed ≠ "" && stemmed ≠ lower
  if isShortQuery typed then
    let stemmed := stemShort typed
    ⟨typed, stemmed, useful stemmed, none⟩
  else
    let nouns := extractNouns typed
    let stemmed := stemLong stoplist nouns
    ⟨typed, stemmed, useful stemmed, some nouns⟩

end HybridSearch.Language
