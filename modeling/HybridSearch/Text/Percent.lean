import HybridSearch.Text.Hex

/-!
Percent escapes in paths: a percent sign with two hexadecimal digits stands for a byte, and all else for itself.
-/

namespace HybridSearch.Text

def unescapeBytes : List UInt8 → List UInt8
  | b :: rest =>
    if b ≠ 0x25 then b :: unescapeBytes rest
    else
      match rest with
      | high :: low :: rest' =>
        match hexValue? (.ofNat high.toNat), hexValue? (.ofNat low.toNat) with
        | some h, some l => .ofNat (16 * h + l) :: unescapeBytes rest'
        | _, _ => b :: unescapeBytes (high :: low :: rest')
      | [low] => [b, low]
      | [] => [b]
  | [] => []

/-- The text with its escapes resolved, unless their bytes make no text. -/
def unescape? (text : String) : Option String :=
  String.fromUTF8? (unescapeBytes text.toUTF8.toList).toByteArray

end HybridSearch.Text
