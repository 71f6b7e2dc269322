import HybridSearch.Json.Reading

/-!
Typed values out of readings. Members that a record does not declare are skipped, a declared one may stand only once,
and a record may also be written as the array of its members in the order declared.
-/

namespace HybridSearch

inductive Fault where
  /-- A value has another shape, or a declared member stands twice. -/
  | unfit
  | broken
  /-- Something is wrong that shows only at the end of a record. -/
  | incomplete
deriving DecidableEq, Repr

/-- A decoded value, or the fault that comes first in the text. -/
def Decoded (α : Type) := Except Fault α

namespace Decoded

variable {α β : Type}

def ok (a : α) : Decoded α := Except.ok a

def fail (f : Fault) : Decoded α := Except.error f

def toOption : Decoded α → Option α
  | .ok a => some a
  | .error _ => none

/-- Nothing is read after a break, so what does not fit stands before it, and the end of a record after it. -/
def first : Fault → Fault → Fault
  | .unfit, _ => .unfit
  | _, .unfit => .unfit
  | .broken, _ => .broken
  | _, .broken => .broken
  | .incomplete, .incomplete => .incomplete

def seq (f : Decoded (α → β)) (x : Decoded α) : Decoded β :=
  match f, x with
  | .ok f, .ok a => .ok (f a)
  | .ok _, .error e => .error e
  | .error e, .ok _ => .error e
  | .error e, .error e' => .error (first e e')

instance : Applicative Decoded where
  pure := ok
  seq f x := seq f (x ())

end Decoded

namespace Reading

mutual

def hasBreak : Reading → Bool
  | .broken => true
  | .arr items => itemsHaveBreak items
  | .obj members => membersHaveBreak members
  | _ => false

def itemsHaveBreak : List Reading → Bool
  | [] => false
  | r :: rest => r.hasBreak || itemsHaveBreak rest

def membersHaveBreak : List (String × Reading) → Bool
  | [] => false
  | (_, r) :: rest => r.hasBreak || membersHaveBreak rest

end

mutual

/-- Any value as it stands. -/
def json : Reading → Decoded Json
  | .null => .ok .null
  | .bool b => .ok (.bool b)
  | .int n => .ok (.int n)
  | .float x => if x.isFinite then .ok (.float x) else .fail .broken
  | .str s => .ok (.str s)
  | .arr items => Json.arr <$> itemsJson items
  | .obj members => (fun ms => Json.object ms) <$> membersJson members
  | .broken => .fail .broken

def itemsJson : List Reading → Decoded (List Json)
  | [] => .ok []
  | r :: rest => List.cons <$> r.json <*> itemsJson rest

def membersJson : List (String × Reading) → Decoded (List (String × Json))
  | [] => .ok []
  | (name, r) :: rest => (fun j js => (name, j) :: js) <$> r.json <*> membersJson rest

end

/-- The fault of a value that has another shape than the one asked for. -/
def mismatch {α : Type} : Reading → Decoded α
  | .broken => .fail .broken
  | .float x => .fail (if x.isFinite then .unfit else .broken)
  | _ => .fail .unfit

def string : Reading → Decoded String
  | .str s => .ok s
  | r => r.mismatch

def flag : Reading → Decoded Bool
  | .bool b => .ok b
  | r => r.mismatch

def unsigned : Reading → Decoded Nat
  | .int n => if 0 ≤ n then .ok n.toNat else .fail .unfit
  | r => r.mismatch

def double : Reading → Decoded Float
  | .int n => .ok (.ofInt n)
  | .float x => if x.isFinite then .ok x else .fail .broken
  | r => r.mismatch

variable {α : Type}

def optional (decode : Reading → Decoded α) : Reading → Decoded (Option α)
  | .null => .ok none
  | r => some <$> decode r

def listOf (decode : Reading → Decoded α) : List Reading → Decoded (List α)
  | [] => .ok []
  | r :: rest => List.cons <$> decode r <*> listOf decode rest

def list (decode : Reading → Decoded α) : Reading → Decoded (List α)
  | .arr items => listOf decode items
  | r => r.mismatch

def entriesOf (decode : Reading → Decoded α) :
    List (String × Reading) → Decoded (List (String × α))
  | [] => .ok []
  | (name, r) :: rest =>
    (fun a entries => (name, a) :: entries) <$> decode r <*> entriesOf decode rest

/-- An object with values of one type, in the order of their names. -/
def entries (decode : Reading → Decoded α) : Reading → Decoded (List (String × α))
  | .obj members => sortMembers <$> entriesOf decode members
  | r => r.mismatch

/-- The declared members of a record as they were found. -/
structure Record where
  found : List (String × Reading)
  others : List (String × Reading)
  positional : Bool

namespace Record

def required (record : Record) (name : String) (decode : Reading → Decoded α) : Decoded α :=
  match record.found.lookup name with
  | some r => decode r
  | none => .fail .incomplete

def orElse (record : Record) (name : String) (decode : Reading → Decoded α) (absent : α) :
    Decoded α :=
  match record.found.lookup name with
  | some r => decode r
  | none => .ok absent

/-- A member that may be null, or left out of an object but not out of an array. -/
def nullable (record : Record) (name : String) (decode : Reading → Decoded α) :
    Decoded (Option α) :=
  match record.found.lookup name with
  | some r => r.optional decode
  | none => if record.positional then .fail .incomplete else .ok none

end Record

def repeated : List String → Bool
  | [] => false
  | name :: rest => rest.contains name || repeated rest

/-- What is missing shows when the record ends, before anything that follows it. -/
def closeRecord : Decoded α → Decoded α
  | .error .incomplete => .fail .unfit
  | result => result

/-- A record that is an object with the declared members. -/
def object (names : List String) (build : Record → Decoded α) : Reading → Decoded α
  | .obj members =>
    let found := members.filter fun m => names.contains m.1
    let others := members.filter fun m => !names.contains m.1
    let once := if repeated (found.map (·.1)) then .fail .unfit else .ok ()
    let whole := if membersHaveBreak others then .fail .broken else .ok ()
    closeRecord ((fun _ _ a => a) <$> once <*> whole <*> build ⟨found, others, false⟩)
  | r => r.mismatch

/-- A record that is an object, or the array of its members. -/
def record (names : List String) (build : Record → Decoded α) : Reading → Decoded α
  | .arr items =>
    let fits := if names.length < items.length then .fail .broken else .ok ()
    closeRecord ((fun _ a => a) <$> fits <*> build ⟨names.zip items, [], true⟩)
  | r => object names build r

/-- Decodes a whole text; what follows the value is a break after it. -/
def ofText (decode : Reading → Decoded α) (text : String) : Decoded α :=
  let doc := document text
  (fun a _ => a) <$> decode doc.value <*> (if doc.complete then .ok () else .fail .broken)

end Reading

namespace Json

def parse? (text : String) : Option Json := (Reading.ofText Reading.json text).toOption

def decode? {α : Type} (decode : Reading → Decoded α) (j : Json) : Option α :=
  (decode (.ofJson j)).toOption

end Json

end HybridSearch
