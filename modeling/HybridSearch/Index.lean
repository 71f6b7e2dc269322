import HybridSearch.Error

/-!
Names of indexes. There is one index per language.
-/

namespace HybridSearch.Index

/-- The most bytes of a language code. -/
def languageBytes : Nat := 8

def isLanguageChar (c : Char) : Bool := c.isAlphanum || c = '-'

def isLanguage (lang : String) : Bool :=
  lang ≠ "" && lang.utf8ByteSize ≤ languageBytes && lang.toList.all isLanguageChar

def name (base lang : String) : Except RequestError String :=
  let lang := Text.lowercase (Text.trim lang)
  if isLanguage lang then .ok s!"{base}_{lang}" else .error (.language lang)

end HybridSearch.Index
