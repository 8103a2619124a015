import CoverageNote.Text.Basic

/-!
# Punycode

Punycode writes any text in the letters, digits and hyphens of ASCII : first the characters of ASCII as
they are, then, behind a hyphen, where to insert the others. Each insertion is one number, written to
base 36 with digits that depend on how large the numbers before it were (`adapt`).
-/

namespace CoverageNote.Punycode

/-! ## Numbers of varying length -/

/-- Halve a distance by 35 until it is small, and count in steps of 36. -/
def scaleDown (delta : Nat) (k : Nat) : Nat :=
  if h : 455 < delta then scaleDown (delta / 35) (k + 36)
  else k + 36 * delta / (delta + 38)
termination_by delta

/-- The bias for the next number, after a number `delta` that inserted into `length` characters. -/
def adapt (delta length : Nat) (first : Bool) : Nat :=
  let delta := if first then delta / 700 else delta / 2
  scaleDown (delta + delta / length) 0

/-- The least digit at place `k` that does not end a number. -/
def threshold (k bias : Nat) : Nat :=
  if k ≤ bias + 1 then 1 else if bias + 26 ≤ k then 26 else k - bias

/-- The digit of a value below 36. -/
def digit (n : Nat) : Char :=
  if n < 26 then Char.ofNat ('a'.toNat + n) else Char.ofNat ('0'.toNat + (n - 26))

/-- The value of a digit. -/
def digit? (c : Char) : Option Nat :=
  if 'a' ≤ c ∧ c ≤ 'z' then some (c.toNat - 'a'.toNat)
  else if 'A' ≤ c ∧ c ≤ 'Z' then some (c.toNat - 'A'.toNat)
  else if '0' ≤ c ∧ c ≤ '9' then some (c.toNat - '0'.toNat + 26)
  else none

/-- The digits of a number, from place `k` on. -/
def number (q k bias : Nat) : Text :=
  let t := threshold k bias
  if q < t then [digit q]
  else digit (t + (q - t) % (36 - t)) :: number ((q - t) / (36 - t)) (k + 36) bias
termination_by q
decreasing_by
  have h1 : 1 ≤ threshold k bias := by
    unfold threshold
    split
    · omega
    · split <;> omega
  exact Nat.lt_of_le_of_lt (Nat.div_le_self _ _) (by omega)

/-! ## Writing -/

/-- Where the writer stands : the distance since the last insertion, the bias, how many characters are
written and the text so far. -/
structure Writer where
  delta : Nat
  bias : Nat
  written : Nat
  text : Text

/-- Go over all characters of the whole text and insert those with the code point `n`. The text starts
with `plain` characters of ASCII. -/
def Writer.insertAll (plain n : Nat) (w : Writer) : Text → Writer
  | [] => w
  | c :: t =>
    let w :=
      if c.toNat < n then { w with delta := w.delta + 1 }
      else if c.toNat = n then
        { delta := 0
          bias := adapt w.delta (w.written + 1) (w.written == plain)
          written := w.written + 1
          text := w.text ++ number w.delta 36 w.bias }
      else w
    w.insertAll plain n t

/-- Insert the characters for each code point of an increasing list; those below `done` are written. -/
def Writer.run (whole : Text) (plain : Nat) (w : Writer) (done : Nat) : List Nat → Writer
  | [] => w
  | n :: ns =>
    let w := { w with delta := w.delta + (n - done) * (w.written + 1) }
    let w := w.insertAll plain n whole
    ({ w with delta := w.delta + 1 } : Writer).run whole plain (n + 1) ns

/-- The text in ASCII. -/
def encode (t : Text) : Text :=
  let ascii := t.filter fun c => c.toNat < 0x80
  let others := ((t.map Char.toNat).filter fun n => 0x80 ≤ n).eraseDups.mergeSort
  let head := if ascii.isEmpty then [] else ascii ++ ['-']
  (Writer.run t ascii.length ⟨0, 72, ascii.length, head⟩ 0x80 others).text

/-! ## Reading -/

/-- Where the reader stands : the code point and the place of the next insertion, the bias, the text so
far, and of the number being read the place of its next digit, the weight there and the value so far. -/
structure Reader where
  code : Nat
  place : Nat
  bias : Nat
  text : Text
  k : Nat
  weight : Nat
  value : Nat

/-- The numbers of a text have at most 32 bits. -/
def fits (n : Nat) : Bool :=
  n < 2 ^ 32

/-- Read one digit. The last digit of a number inserts a character. -/
def Reader.step? (r : Reader) (c : Char) : Option Reader := do
  let d ← digit? c
  let value := r.value + d * r.weight
  let target := r.place + value
  let t := threshold r.k r.bias
  if !fits target then none
  else if t ≤ d then
    let weight := r.weight * (36 - t)
    if fits weight then some { r with k := r.k + 36, weight, value } else none
  else
    let length := r.text.length + 1
    let code := r.code + target / length
    let place := target % length
    if code.isValidChar then
      some {
        code := code
        place := place + 1
        bias := adapt value length (r.place == 0)
        text := r.text.take place ++ Char.ofNat code :: r.text.drop place
        k := 36, weight := 1, value := 0 }
    else none

/-- The text that an ASCII text stands for, if it is well-formed. -/
def decode? (t : Text) : Option Text :=
  let digits := (t.reverse.takeWhile (· != '-')).reverse
  let head := t.take (t.length - digits.length)
  if head = ['-'] then none
  else do
    let start : Reader := ⟨0x80, 0, 72, head.dropLast, 36, 1, 0⟩
    let r ← digits.foldlM Reader.step? start
    if r.k = 36 then some r.text else none

end CoverageNote.Punycode
