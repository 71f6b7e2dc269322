import HybridSearch.Json.Basic
import HybridSearch.Text.Basic

/-!
What a response shows of a document: the document without its vectors, and the sentence that mentions the query.
-/

namespace HybridSearch.Snippet

/-- Whether a member is left out of responses. -/
def hidden (withoutArea : Bool) (name : String) : Bool :=
  "embedding".toList.isSuffixOf name.toList ||
    (withoutArea && (name = "service_area" || name = "service_areas"))

mutual

/-- The document without hidden members, at any depth. -/
def strip (withoutArea : Bool) : Json → Json
  | .arr items => .arr (stripItems withoutArea items)
  | .obj members => .obj (stripMembers withoutArea members)
  | j => j

def stripItems (withoutArea : Bool) : List Json → List Json
  | [] => []
  | j :: rest => strip withoutArea j :: stripItems withoutArea rest

def stripMembers (withoutArea : Bool) : List (String × Json) → List (String × Json)
  | [] => []
  | (name, j) :: rest =>
    if hidden withoutArea name then stripMembers withoutArea rest
    else (name, strip withoutArea j) :: stripMembers withoutArea rest

end

def description? (source : Json) : Option String :=
  ((source.get? "description").bind Json.str?) <|>
    ((source.get? "service_description").bind Json.str?) <|>
    (((source.get? "service").bind (·.get? "description")).bind Json.str?)

def endsSentence (c : Char) (rest : List Char) : Bool :=
  (c = '.' || c = '!' || c = '?') &&
    match rest with
    | [] => true
    | next :: _ => Text.isSpace next

def attach (c : Char) : List (List Char) → List (List Char)
  | [] => [[c]]
  | piece :: rest => (c :: piece) :: rest

/-- Cuts a text after each mark that ends a sentence. -/
def pieces : List Char → List (List Char)
  | [] => [[]]
  | c :: rest => if endsSentence c rest then [c] :: pieces rest else attach c (pieces rest)

def sentences (text : List Char) : List (List Char) :=
  ((pieces text).map Text.trimChars).filter (!·.isEmpty)

def minTermLength : Nat := 3

def searchTerms (terms : List String) : List (List Char) :=
  (terms.map fun t => Text.lowerChars t.toList).filter fun t => minTermLength ≤ t.length

/-- Whether a text holds a term as consecutive characters. -/
def holds (term : List Char) : List Char → Bool
  | [] => term.isEmpty
  | c :: rest => term.isPrefixOf (c :: rest) || holds term rest

def mentions (terms : List (List Char)) (text : List Char) : Bool :=
  terms.any (holds · (Text.lowerChars text))

/-- The first sentence of the description that mentions a term. -/
def relevantText (source : Json) (terms : List String) : Option String :=
  let wanted := searchTerms terms
  if wanted.isEmpty then none
  else
    (description? source).bind fun text =>
      ((sentences text.toList).find? (mentions wanted)).map .ofList

end HybridSearch.Snippet
