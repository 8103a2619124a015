import CoverageNote.Text.Basic

/-!
# The shortest digits of a number

A floating point number of 64 bits stands for all the numbers that round to it. `Shortest.digits` gives
the fewest decimal digits that lie among them, and of those the nearest.

The number is taken apart into `mantissa * 2 ^ exponent`, and all is done with natural numbers : with
`n` digits the number lies between two neighbours on a decimal grid, and the first grid with a neighbour
among the numbers that round back has the answer.
-/

namespace CoverageNote

/-- A positive number as a fraction, with the ends of the interval of numbers that round to it, all over
one denominator. -/
structure Shortest where
  value : Nat
  low : Nat
  high : Nat
  denominator : Nat
  /-- Whether the ends themselves round to the number. -/
  closed : Bool

namespace Shortest

/-- The interval around the positive number with these bits. -/
def ofBits (bits : UInt64) : Shortest :=
  let fraction := bits.toNat % 2 ^ 52
  let field := bits.toNat / 2 ^ 52 % 2 ^ 11
  let mantissa := if field = 0 then fraction else 2 ^ 52 + fraction
  let exponent : Int := ((if field = 0 then 1 else field : Nat) : Int) - 1075
  -- Below a power of two the neighbour is only half as far.
  let narrow := fraction = 0 ∧ 1 < field
  let value := 4 * mantissa
  let low := if narrow then value - 1 else value - 2
  let high := value + 2
  let up := 2 ^ exponent.toNat
  { value := value * up
    low := low * up
    high := high * up
    denominator := 4 * 2 ^ (-exponent).toNat
    closed := mantissa % 2 = 0 }

/-- Whether `n / d` rounds to the number. -/
def holds (s : Shortest) (n d : Nat) : Bool :=
  let left := s.low * d
  let middle := n * s.denominator
  let right := s.high * d
  if s.closed then left ≤ middle && middle ≤ right else left < middle && middle < right

/-- The least power of ten that is greater than the number. -/
def magnitude (s : Shortest) : Int :=
  let whole := s.value / s.denominator
  if 0 < whole then (Nat.toDigits 10 whole).length
  else
    match (List.range 400).find? fun j => s.denominator ≤ s.value * 10 ^ (j + 1) with
    | some j => -(j : Int)
    | none => 0

/-- The neighbour of the number on the grid of multiples of `10 ^ place` that rounds to it, the nearer
one if both do, as a multiple. -/
def onGrid? (s : Shortest) (place : Int) : Option Nat :=
  let up := 10 ^ place.toNat
  let down := 10 ^ (-place).toNat
  -- `place` is a power of ten above or below the fraction's line.
  let below := s.value * down / (s.denominator * up)
  let hasBelow := s.holds (below * up) down
  let hasAbove := s.holds ((below + 1) * up) down
  if hasBelow && hasAbove then
    let twice := 2 * s.value * down
    if twice < (2 * below + 1) * s.denominator * up then some below
    else if (2 * below + 1) * s.denominator * up < twice then some (below + 1)
    else if below % 2 = 0 then some below else some (below + 1)
  else if hasBelow then some below
  else if hasAbove then some (below + 1)
  else none

/-- The fewest digits that round to the number, without zeros at the end, and the power of ten of the
last one. -/
def digits (s : Shortest) : Text × Int :=
  let m := s.magnitude
  let found := (List.range 17).findSome? fun (n : Nat) =>
    let place := m - ((n + 1 : Nat) : Int)
    (s.onGrid? place).map fun k => (k, place)
  let (k, place) : Nat × Int := found.getD (0, 0)
  let all := Text.decimal k
  let kept := if k = 0 then all else Text.dropEndWhile (· == '0') all
  (kept, place + (all.length - kept.length : Nat))

end Shortest

end CoverageNote
