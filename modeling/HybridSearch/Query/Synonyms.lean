import HybridSearch.Json.Decode
import HybridSearch.Text.Basic

/-!
Synonyms of words, looked up without regard to case and to blanks around a word.
-/

namespace HybridSearch.Query

/-- Lists of synonyms under their words, all in lowercase. -/
structure SynonymMap where
  entries : List (String × List String)

namespace SynonymMap

def normalize (word : String) : String := Text.lowercase (Text.trim word)

def empty : SynonymMap := ⟨[]⟩

/-- Blank synonyms are left out. -/
def ofEntries (entries : List (String × List String)) : SynonymMap :=
  ⟨sortMembers (entries.map fun e => (normalize e.1, (e.2.map normalize).filter (· ≠ "")))⟩

def find (m : SynonymMap) (word : String) : List String :=
  (m.entries.lookup (normalize word)).getD []

def size (m : SynonymMap) : Nat := m.entries.length

inductive LoadError where
  | unreadable
  | malformed
deriving DecidableEq, Repr

def LoadError.message : LoadError → String
  | unreadable => "Failed to read synonyms"
  | malformed => "Failed to parse synonyms file"

def decode : Reading → Decoded (List (String × List String)) :=
  Reading.entries (Reading.list Reading.string)

def load (content : Option String) : Except LoadError SynonymMap :=
  match content with
  | none => .error .unreadable
  | some text =>
    match (Reading.ofText decode text).toOption with
    | some entries => .ok (ofEntries entries)
    | none => .error .malformed

end SynonymMap

end HybridSearch.Query
