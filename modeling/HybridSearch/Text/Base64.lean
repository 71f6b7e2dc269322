/-!
Base 64: three bytes as four characters, the last group filled up with equals signs.
-/

namespace HybridSearch.Text

def base64Digits : List Char :=
  "ABCDEFGHIJKLMNOPQRSTUVWXYZabcdefghijklmnopqrstuvwxyz0123456789+/".toList

def base64Digit (n : Nat) : Char := base64Digits.getD (n % 64) '='

def base64Chars : List UInt8 → List Char
  | a :: b :: c :: rest =>
    let n := 65536 * a.toNat + 256 * b.toNat + c.toNat
    base64Digit (n / 262144) :: base64Digit (n / 4096) :: base64Digit (n / 64) :: base64Digit n ::
      base64Chars rest
  | [a, b] =>
    let n := 1024 * a.toNat + 4 * b.toNat
    [base64Digit (n / 4096), base64Digit (n / 64), base64Digit n, '=']
  | [a] =>
    let n := 16 * a.toNat
    [base64Digit (n / 64), base64Digit n, '=', '=']
  | [] => []

end HybridSearch.Text
