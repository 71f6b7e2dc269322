import HybridSearch.Text.Basic
import HybridSearch.Text.Pattern

/-!
Taxonomy codes among queries: one or two letters, then perhaps a dash and up to four numeric levels.
-/

namespace HybridSearch.Query

open Text Pattern

def asciiLetter : Pattern := one Char.isAlpha

def level : Pattern := between (one isDecimal) 1 3

def codePattern : Pattern :=
  seq (between asciiLetter 1 1)
    (optional (all [char '-', level, upTo (seq (char '.') level) 3]))

def isCode (text : String) : Bool := codePattern.accepts text.toList

def isCodeQuery (query : String) : Bool := isCode (trim query)

end HybridSearch.Query
