import CoverageNote.Text.Basic

/-!
# Similar words

How alike two words are, as a fraction between 0 and 1 : characters match if they are equal and not too
far apart, and matching characters count less the more of them stand in a different order. The measure
is the mean of three shares : of the first word that matches, of the second word that matches, and of
the matches that keep their order.
-/

namespace CoverageNote.Text

/-- Mark the first unmarked occurrence of `c` at a place between `low` and `high`, if there is one. -/
def markFirst (c : Char) (low high : Nat) : Nat → List (Char × Bool) → Option (List (Char × Bool))
  | _, [] => none
  | i, (d, marked) :: rest =>
    if high ≤ i then none
    else if low ≤ i ∧ d = c ∧ !marked then some ((d, true) :: rest)
    else (markFirst c low high (i + 1) rest).map ((d, marked) :: ·)

/-- Match the characters of a word, from place `i` on, with those of another. The result is the
characters that found a match, and the other word with its matched characters marked. -/
def matchAll (range : Nat) (i : Nat) (other : List (Char × Bool)) : Text → Text × List (Char × Bool)
  | [] => ([], other)
  | c :: t =>
    match markFirst c (i - range) (i + range + 1) 0 other with
    | some other =>
      let r := matchAll range (i + 1) other t
      (c :: r.1, r.2)
    | none => matchAll range (i + 1) other t

/-- How alike two words are, as numerator and denominator. -/
def similarity (a b : Text) : Nat × Nat :=
  let range := max a.length b.length / 2 - 1
  let (matchedA, marked) := matchAll range 0 (b.map fun c => (c, false)) a
  let matchedB := (marked.filter (·.2)).map (·.1)
  let m := matchedA.length
  if a.isEmpty && b.isEmpty then (1, 1)
  else if m = 0 then (0, 1)
  else
    let moved := ((matchedA.zip matchedB).filter fun p => p.1 ≠ p.2).length / 2
    (m * b.length * m + m * a.length * m + (m - moved) * a.length * b.length,
      3 * a.length * b.length * m)

end CoverageNote.Text
