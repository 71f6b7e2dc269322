import HybridSearch.Text.Class

/-!
Lowercase, trimming, and the words of a text.
-/

namespace HybridSearch.Text

/-- Whether the first character that case mapping does not look past is cased. -/
def meetsCased (cs : List Char) : Bool :=
  match cs.dropWhile isCaseIgnorable with
  | [] => false
  | c :: _ => isCased c

/-- Lowercase of a text after the characters `before`, the nearest first; a sigma that ends a word takes its final
form. -/
def lowerAfter (before : List Char) : List Char → List Char
  | [] => []
  | c :: rest =>
    let image :=
      if c = 'Σ' then [if meetsCased before && !meetsCased rest then 'ς' else 'σ'] else lowerChar c
    image ++ lowerAfter (c :: before) rest

def lowerChars (cs : List Char) : List Char := lowerAfter [] cs

def lowercase (s : String) : String := .ofList (lowerChars s.toList)

def trimEndWhile (p : Char → Bool) (cs : List Char) : List Char :=
  (cs.reverse.dropWhile p).reverse

def trimChars (cs : List Char) : List Char := trimEndWhile isSpace (cs.dropWhile isSpace)

def trim (s : String) : String := .ofList (trimChars s.toList)

/-- The longest pieces of a text made of characters of one class. -/
def runs (p : Char → Bool) : List Char → List (List Char)
  | [] => []
  | c :: rest =>
    if p c then
      match rest, runs p rest with
      | next :: _, run :: more => if p next then (c :: run) :: more else [c] :: run :: more
      | _, more => [c] :: more
    else runs p rest

def wordChars (cs : List Char) : List (List Char) := runs (fun c => !isSpace c) cs

def words (s : String) : List String := (wordChars s.toList).map .ofList

def isBlank (s : String) : Bool := s.toList.all isSpace

end HybridSearch.Text
