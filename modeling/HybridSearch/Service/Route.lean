import HybridSearch.Text.Percent

/-!
The routes of the service.
-/

namespace HybridSearch

inductive Route where
  | health
  | weights
  | search
  /-- Suggestions by the version that the path names, if its escapes can be resolved. -/
  | suggest (version : Option String)
deriving DecidableEq

namespace Route

/-- The path without what follows it in an address. -/
def pathOf (target : List Char) : List Char := target.takeWhile fun c => c ≠ '?' && c ≠ '#'

def suggestPath : List Char := "/suggest/".toList

def segment? (beginning path : List Char) : Option (List Char) :=
  let rest := path.drop beginning.length
  if beginning.isPrefixOf path && !rest.isEmpty && !rest.contains '/' then some rest else none

def ofTarget? (target : String) : Option Route :=
  let path := pathOf target.toList
  if path = "/health".toList then some .health
  else if path = "/weights".toList then some .weights
  else if path = "/search".toList then some .search
  else (segment? suggestPath path).map fun version => .suggest (Text.unescape? (.ofList version))

/-- Whether a route answers a method; what can be got can also be asked for without its body. -/
def allows (method : String) : Route → Bool
  | health | weights => method = "GET" || method = "HEAD"
  | search | suggest _ => method = "POST"

end Route

end HybridSearch
