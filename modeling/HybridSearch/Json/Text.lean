import HybridSearch.Json.Basic
import HybridSearch.Text.Hex

/-!
The compact text of a JSON value: no blanks, and in strings only the quote, the backslash and control characters are
escaped.
-/

namespace HybridSearch.Json

open Text (hexDigit)

def escapeChar (c : Char) : List Char :=
  if c = '"' then ['\\', '"']
  else if c = '\\' then ['\\', '\\']
  else if c = '\n' then ['\\', 'n']
  else if c = '\r' then ['\\', 'r']
  else if c = '\t' then ['\\', 't']
  else if c.toNat = 8 then ['\\', 'b']
  else if c.toNat = 12 then ['\\', 'f']
  else if c.toNat < 32 then
    ['\\', 'u', '0', '0', hexDigit (c.toNat / 16), hexDigit (c.toNat % 16)]
  else [c]

def quote (s : String) : List Char :=
  '"' :: (s.toList.flatMap escapeChar ++ ['"'])

def intChars (n : Int) : List Char :=
  if n < 0 then '-' :: Nat.toDigits 10 n.natAbs else Nat.toDigits 10 n.natAbs

def numberChars? : Json → Option (List Char)
  | .int n => some (intChars n)
  | .float x => some (if x.isFinite then jsonNumberChars x else "null".toList)
  | _ => none

mutual

def chars : Json → List Char
  | .null => "null".toList
  | .bool true => "true".toList
  | .bool false => "false".toList
  | .int n => intChars n
  | .float x => if x.isFinite then jsonNumberChars x else "null".toList
  | .str s => quote s
  | .arr items => '[' :: (itemsChars items ++ [']'])
  | .obj members => '\x7b' :: (membersChars members ++ ['\x7d'])

def itemsChars : List Json → List Char
  | [] => []
  | [item] => item.chars
  | item :: next :: rest => item.chars ++ ',' :: itemsChars (next :: rest)

def membersChars : List (String × Json) → List Char
  | [] => []
  | [(name, value)] => quote name ++ ':' :: value.chars
  | (name, value) :: next :: rest =>
    quote name ++ ':' :: (value.chars ++ ',' :: membersChars (next :: rest))

end

def text (j : Json) : String := .ofList j.chars

end HybridSearch.Json
