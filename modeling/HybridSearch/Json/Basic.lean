import HybridSearch.Decimal.Shortest

/-!
JSON values. Whole numbers and doubles are told apart, since a document passed through keeps the kind of its numbers,
and the members of an object stand in the order of their names.
-/

namespace HybridSearch

inductive Json where
  | null
  | bool (value : Bool)
  | int (value : Int)
  | float (value : Float)
  | str (value : String)
  | arr (items : List Json)
  | obj (members : List (String × Json))
deriving BEq, Inhabited, Repr

/-- Puts a member in its place; a later value of a name replaces the earlier one. -/
def insertMember {α : Type} (name : String) (value : α) : List (String × α) → List (String × α)
  | [] => [(name, value)]
  | (n, v) :: rest =>
    if name < n then (name, value) :: (n, v) :: rest
    else if name = n then (name, value) :: rest
    else (n, v) :: insertMember name value rest

/-- The members in the order of their names, the last value of each. -/
def sortMembers {α : Type} (members : List (String × α)) : List (String × α) :=
  members.foldl (fun sorted m => insertMember m.1 m.2 sorted) []

namespace Json

def object (members : List (String × Json)) : Json := .obj (sortMembers members)

/-- A computed double; what is not finite has no JSON number. -/
def number (x : Float) : Json := if x.isFinite then .float x else .null

def nat (n : Nat) : Json := .int n

def strings (items : List String) : Json := .arr (items.map .str)

def ofOption {α : Type} (f : α → Json) : Option α → Json
  | none => .null
  | some a => f a

def get? (name : String) : Json → Option Json
  | .obj members => members.lookup name
  | _ => none

def str? : Json → Option String
  | .str s => some s
  | _ => none

/-- Either kind of number as a double. -/
def float? : Json → Option Float
  | .int n => some (.ofInt n)
  | .float x => some x
  | _ => none

def arr? : Json → Option (List Json)
  | .arr items => some items
  | _ => none

/-- The members that are present, each under its name. -/
def present (members : List (String × Option Json)) : Json :=
  object (members.filterMap fun m => m.2.map (m.1, ·))

end Json

end HybridSearch
