import HybridSearch.Batch
import HybridSearch.Cursor
import HybridSearch.Geo
import HybridSearch.Query.Version
import HybridSearch.Weights.Basic

/-!
What can go wrong with a request, in words and as a response. A caller sees only bad input and a lost backend.
-/

namespace HybridSearch

/-- Why a request is refused. -/
inductive RequestError where
  | language (lang : String)
  | coordinatesApart
  | place (cause : GeoError)
  | distance (miles : Float)
  | distanceWithoutPlace
  | cursor (cause : CursorError)
  | weights (violations : List Violation)
  /-- The cursor belongs to other weights. -/
  | staleCursor
  | noInput
  | page (number : Nat)
  | version (digits : String)

def maxSuggestPage : Nat := 100

def RequestError.message : RequestError → String
  | language lang => s!"unsupported lang '{lang}'"
  | coordinatesApart => "lat and lon must be provided together"
  | place cause => cause.message
  | distance miles => s!"distance must be a positive number of miles, got {plainNumber miles}"
  | distanceWithoutPlace => "distance requires lat and lon"
  | cursor cause => cause.message
  | weights violations => "custom weights rejected: " ++ violationsMessage violations
  | staleCursor => "search_after was issued under different weights; restart pagination"
  | noInput => "query or code is required"
  | page number => s!"page must be at most {maxSuggestPage}, got {number}"
  | version digits => Query.Version.unsupportedMessage digits

inductive ErrorKind where
  | validation
  | backend
  | internal
deriving DecidableEq

namespace ErrorKind

def status : ErrorKind → Nat
  | validation => 400
  | backend => 502
  | internal => 500

def name : ErrorKind → String
  | validation => "validation_error"
  | backend => "backend_error"
  | internal => "internal_error"

def text (detail : String) : ErrorKind → String
  | validation => s!"Invalid request: {detail}"
  | backend => s!"Search backend unavailable: {detail}"
  | internal => s!"Internal server error: {detail}"

def body (detail : String) (kind : ErrorKind) : Json :=
  .object [("error", .object [("type", .str kind.name), ("message", .str (kind.text detail))])]

end ErrorKind

inductive SearchError where
  | invalid (cause : RequestError)
  | backend (cause : BatchError)
  | internal (reason : String)

namespace SearchError

def kind : SearchError → ErrorKind
  | invalid _ => .validation
  | backend _ => .backend
  | internal _ => .internal

def detail : SearchError → String
  | invalid cause => cause.message
  | backend cause => cause.message
  | internal reason => reason

def message (e : SearchError) : String := e.kind.text e.detail

def body (e : SearchError) : Json := e.kind.body e.detail

end SearchError

end HybridSearch
