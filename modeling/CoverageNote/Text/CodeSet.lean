import CoverageNote.Text.Basic

/-!
# Sets of code points

The properties of characters that the Unicode standard lists are written down as texts : code points
in base 16, alone or as the two ends of a range, with a space between neighbours. `CodeSet.ofLines`
reads such lists.
-/

namespace CoverageNote

/-- The value of a digit in base 16. -/
def hexDigit? (c : Char) : Option Nat :=
  if '0' ≤ c ∧ c ≤ '9' then some (c.toNat - '0'.toNat)
  else if 'A' ≤ c ∧ c ≤ 'F' then some (c.toNat - 'A'.toNat + 10)
  else if 'a' ≤ c ∧ c ≤ 'f' then some (c.toNat - 'a'.toNat + 10)
  else none

/-- The value of a numeral in base 16. Other characters count as the digit 0. -/
def Text.hexValue (t : Text) : Nat :=
  t.foldl (fun n c => 16 * n + (hexDigit? c).getD 0) 0

/-- A set of code points, as the ends of its ranges. -/
abbrev CodeSet := List (Nat × Nat)

namespace CodeSet

/-- Read a range `A-B`, or a single code point `A`. -/
def range (t : Text) : Nat × Nat :=
  match t.cut? '-' with
  | some (low, high) => (low.hexValue, high.hexValue)
  | none => (t.hexValue, t.hexValue)

/-- Read lines with ranges. -/
def ofLines (lines : List String) : CodeSet :=
  lines.flatMap fun line => (Text.fields ' ' line.toList).map range

/-- Whether `n` lies in one of the ranges. -/
def contains (s : CodeSet) (n : Nat) : Bool :=
  s.any fun r => r.1 ≤ n && n ≤ r.2

end CodeSet

end CoverageNote
