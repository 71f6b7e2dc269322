/-!
The SHA-1 digest of a byte string.
-/

namespace HybridSearch.Digest

def rotateLeft (x : UInt32) (n : UInt32) : UInt32 := (x <<< n) ||| (x >>> (32 - n))

def bigEndian (count n : Nat) : List UInt8 :=
  (List.range count).map fun i => .ofNat (n / Nat.pow 256 (count - 1 - i) % 256)

/-- The message with its padding and its length in bits, a multiple of 64 bytes. -/
def padded (message : List UInt8) : List UInt8 :=
  let zeros := (119 - message.length % 64) % 64
  message ++ 0x80 :: (List.replicate zeros 0 ++ bigEndian 8 (8 * message.length))

def wordOfBytes (bytes : List UInt8) : UInt32 :=
  bytes.foldl (fun w b => (w <<< 8) ||| b.toUInt32) 0

def wordAt (block : List UInt8) (i : Nat) : UInt32 := wordOfBytes ((block.drop (4 * i)).take 4)

/-- The eighty words that one block is spread over. -/
def schedule (block : List UInt8) : Array UInt32 :=
  let start := ((List.range 16).map (wordAt block)).toArray
  (List.range 64).foldl
    (fun w i => w.push (rotateLeft (w.getD (i + 13) 0 ^^^ w.getD (i + 8) 0 ^^^ w.getD (i + 2) 0 ^^^ w.getD i 0) 1))
    start

structure State where
  a : UInt32
  b : UInt32
  c : UInt32
  d : UInt32
  e : UInt32
deriving DecidableEq

namespace State

def initial : State := ⟨0x67452301, 0xEFCDAB89, 0x98BADCFE, 0x10325476, 0xC3D2E1F0⟩

/-- The mixing function and constant of round `i`. -/
def mix (s : State) (i : Nat) : UInt32 :=
  if i < 20 then ((s.b &&& s.c) ||| (~~~s.b &&& s.d)) + 0x5A827999
  else if i < 40 then (s.b ^^^ s.c ^^^ s.d) + 0x6ED9EBA1
  else if i < 60 then ((s.b &&& s.c) ||| (s.b &&& s.d) ||| (s.c &&& s.d)) + 0x8F1BBCDC
  else (s.b ^^^ s.c ^^^ s.d) + 0xCA62C1D6

def round (w : Array UInt32) (s : State) (i : Nat) : State :=
  ⟨rotateLeft s.a 5 + s.mix i + s.e + w.getD i 0, s.a, rotateLeft s.b 30, s.c, s.d⟩

def absorb (s : State) (block : List UInt8) : State :=
  let t := (List.range 80).foldl (round (schedule block)) s
  ⟨s.a + t.a, s.b + t.b, s.c + t.c, s.d + t.d, s.e + t.e⟩

def bytes (s : State) : List UInt8 :=
  [s.a, s.b, s.c, s.d, s.e].flatMap fun w => bigEndian 4 w.toNat

end State

def sha1 (message : List UInt8) : List UInt8 :=
  let bytes := padded message
  let blocks := (List.range (bytes.length / 64)).map fun i => (bytes.drop (64 * i)).take 64
  (blocks.foldl State.absorb .initial).bytes

/-- The object-identifier namespace of name-based identifiers. -/
def objectNamespace : List UInt8 :=
  [0x6b, 0xa7, 0xb8, 0x12, 0x9d, 0xad, 0x11, 0xd1, 0x80, 0xb4, 0x00, 0xc0, 0x4f, 0xd4, 0x30, 0xc8]

/-- A name-based identifier: sixteen digest bytes, with the version and the variant written over a few bits. -/
def nameIdentifier (space : List UInt8) (name : String) : List UInt8 :=
  let digest := (sha1 (space ++ name.toUTF8.toList)).take 16
  (digest.modify 6 fun b => (b &&& 0x0F) ||| 0x50).modify 8 fun b => (b &&& 0x3F) ||| 0x80

end HybridSearch.Digest
