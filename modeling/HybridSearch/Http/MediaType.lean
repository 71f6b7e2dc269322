/-!
Media types of message bodies, as a header states them.
-/

namespace HybridSearch.Http

structure MediaType where
  type : List Char
  subtype : List Char
  /-- What follows the last plus sign of the subtype. -/
  suffix : Option (List Char)
deriving DecidableEq

namespace MediaType

def isTokenChar (c : Char) : Bool := c.isAlphanum || "!#$%&'*+-.^_`|~".toList.contains c

/-- The characters that may stand between quotes. -/
def isQuotedChar (c : Char) : Bool := 31 < c.toNat && c.toNat ≠ 127

/-- How far the parameters after a subtype have been read. -/
inductive Position where
  | start
  | name
  | value
  | bare
  /-- After the opening quote, where even a quote belongs to the value. -/
  | opened
  | quoted
  | closed
deriving DecidableEq

namespace Position

def step (c : Char) : Position → Option Position
  | start => if c = ' ' then some start else if isTokenChar c then some name else none
  | name => if c = '=' then some value else if isTokenChar c then some name else none
  | value => if c = '"' then some opened else if isTokenChar c then some bare else none
  | bare => if c = ';' then some start else if isTokenChar c then some bare else none
  | opened => if isQuotedChar c then some quoted else none
  | quoted => if c = '"' then some closed else if isQuotedChar c then some quoted else none
  | closed => if c = ';' then some start else if c = ' ' then some closed else none

/-- Whether the parameters may end here. -/
def isEnd : Position → Bool
  | start | value | bare | closed => true
  | name | opened | quoted => false

end Position

def areParameters (text : List Char) : Bool :=
  (text.foldlM (fun p c => Position.step c p) .start).any Position.isEnd

/-- Splits a subtype at its last plus sign, unless nothing stands before it. -/
def splitSuffix (subtype : List Char) : List Char × Option (List Char) :=
  let backwards := subtype.reverse
  let before := ((backwards.dropWhile (· ≠ '+')).drop 1).reverse
  if before.isEmpty then (subtype, none) else (before, some (backwards.takeWhile (· ≠ '+')).reverse)

def ofNames (type subtype : List Char) : MediaType :=
  let (base, suffix) := splitSuffix (subtype.map Char.toLower)
  ⟨type.map Char.toLower, base, suffix⟩

def parse? (text : String) : Option MediaType :=
  let type := text.toList.takeWhile isTokenChar
  match text.toList.dropWhile isTokenChar with
  | '/' :: rest =>
    let subtype := rest.takeWhile isTokenChar
    match rest.dropWhile isTokenChar with
    | [] => if type.isEmpty then none else some (ofNames type subtype)
    | ';' :: parameters =>
      if type.isEmpty || subtype.isEmpty || !areParameters parameters then none
      else some (ofNames type subtype)
    | _ => none
  | _ => none

def isJson (m : MediaType) : Bool :=
  m.type = "application".toList && (m.subtype = "json".toList || m.suffix = some "json".toList)

end MediaType

end HybridSearch.Http
