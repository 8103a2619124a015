import CoverageNote.Text.Basic

/-!
# Base 64

Three bytes are written as four digits in base 64. What is left over at the end is filled up with equality
signs.
-/

namespace CoverageNote.Base64

/-- The digits in base 64. -/
def digits : Text :=
  "ABCDEFGHIJKLMNOPQRSTUVWXYZabcdefghijklmnopqrstuvwxyz0123456789+/".toList

/-- The digit of a value below 64. -/
def digit (n : Nat) : Char :=
  digits.getD (n % 64) 'A'

/-- The bytes in base 64. -/
def encode : List UInt8 → Text
  | [] => []
  | [a] =>
    let n := a.toNat * 16
    [digit (n / 64), digit n, '=', '=']
  | [a, b] =>
    let n := (a.toNat * 256 + b.toNat) * 4
    [digit (n / 4096), digit (n / 64), digit n, '=']
  | a :: b :: c :: bs =>
    let n := (a.toNat * 256 + b.toNat) * 256 + c.toNat
    [digit (n / 262144), digit (n / 4096), digit (n / 64), digit n] ++ encode bs

end CoverageNote.Base64
