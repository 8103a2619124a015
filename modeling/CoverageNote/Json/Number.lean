import CoverageNote.Json.Shortest

/-!
# Numbers in JSON

A number without fraction and exponent that fits 64 bits is kept as it is; any other one is kept as the
bits of a floating point number, and one too large for that is no number.
-/

namespace CoverageNote

/-- A number in JSON. -/
inductive JsonNumber where
  | natural (n : Nat)
  | negative (n : Nat)
  | float (bits : UInt64)
deriving Repr, DecidableEq

namespace JsonNumber

/-! ## Reading -/

/-- The greatest natural number of 64 bits. -/
def maxNatural : Nat := 2 ^ 64 - 1

/-- The leading digits of a numeral that fit 64 bits, with the number of digits left over. -/
def significand (n : Nat) : Text → Nat × Nat
  | [] => (n, 0)
  | c :: t =>
    let next := 10 * n + (c.toNat - '0'.toNat)
    if maxNatural < next then (n, (c :: t).length) else significand next t

/-- A number times a power of ten, if it is not too large. -/
def scaled? (significand : Nat) (exponent : Int) : Option Float :=
  let f := Float.ofNat significand
  if 308 < exponent then if significand = 0 then some f else none
  else if 0 ≤ exponent then
    let g := f * Float.ofScientific 1 false exponent.toNat
    if g.isInf then none else some g
  else if -308 ≤ exponent then some (f / Float.ofScientific 1 false (-exponent).toNat)
  else if -616 ≤ exponent then
    some (f / Float.ofScientific 1 false 308 / Float.ofScientific 1 false (-exponent - 308).toNat)
  else some 0

/-- A number with a fraction or an exponent, or one that does not fit 64 bits. -/
def float? (minus : Bool) (whole fraction : Text) (exponent : Int) : Option JsonNumber :=
  let (n, left) := significand 0 whole
  let (n, used) :=
    if left = 0 then
      let r := significand n fraction
      (r.1, fraction.length - r.2)
    else (n, 0)
  (scaled? n (exponent + left - used)).map fun f => float (if minus then -f else f).toBits

/-- The number of a numeral : its sign, the digits before the point, those after it, and the exponent if
it has one. -/
def ofNumeral? (minus : Bool) (whole : Text) (fraction : Option Text) (exponent : Option Int) :
    Option JsonNumber :=
  let (n, left) := significand 0 whole
  if fraction.isNone && exponent.isNone && left = 0 then
    if !minus then some (natural n)
    else if n = 0 then some (float (-0.0 : Float).toBits)
    else if n ≤ 2 ^ 63 then some (negative n)
    else some (float (-Float.ofNat n).toBits)
  else float? minus whole (fraction.getD []) (exponent.getD 0)

/-! ## Writing -/

/-- How the digits of a number are laid out : from the point on which power of ten they are written with
an exponent, above and below. -/
structure Layout where
  largest : Int
  smallest : Int

/-- Numbers below `10 ^ 16` and not below `10 ^ -5` are written without an exponent. -/
def layout : Layout := ⟨16, -5⟩

/-- Digits, the last one at a power of ten, with a point or an exponent. -/
def laidOut (digits : Text) (place : Int) : Text :=
  let power := place + digits.length
  if layout.largest < power ∨ power ≤ layout.smallest then
    let exponent := power - 1
    let sign := if exponent < 0 then ['-'] else ['+']
    digits.take 1 ++ (if digits.length ≤ 1 then [] else '.' :: digits.drop 1) ++ ['e'] ++ sign ++
      Text.decimal exponent.natAbs
  else if 0 ≤ place then digits ++ List.replicate place.toNat '0' ++ ".0".toList
  else if 0 < power then digits.take power.toNat ++ ['.'] ++ digits.drop power.toNat
  else "0.".toList ++ List.replicate (-power).toNat '0' ++ digits

/-- The finite floating point number with these bits as it is written. -/
def floatText (bits : UInt64) : Text :=
  let sign := if 2 ^ 63 ≤ bits.toNat then ['-'] else []
  if bits.toNat % 2 ^ 63 = 0 then sign ++ "0.0".toList
  else
    let (digits, place) := (Shortest.ofBits bits).digits
    sign ++ laidOut digits place

/-- A number as it is written. -/
def text : JsonNumber → Text
  | natural n => Text.decimal n
  | negative n => '-' :: Text.decimal n
  | float bits => floatText bits

end JsonNumber

end CoverageNote
