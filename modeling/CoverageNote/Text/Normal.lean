import CoverageNote.Text.NormalTable

/-!
# The canonical normal form

Two texts that differ only in how their accents are put together have the same normal form : every
character is taken apart, the marks after a character are sorted by their combining class, and what
can be put together again is.
-/

namespace CoverageNote.Text

/-! ## Taking apart -/

/-- The combining class of a character : 0 for all that do not combine. -/
def combiningClass (c : Char) : Nat :=
  if c.toNat < 0x300 then 0
  else
    ((combiningClasses.find? fun r => r.1.1 ≤ c.toNat && c.toNat ≤ r.1.2).map (·.2)).getD 0

/-- A syllable of Hangul taken apart : its leading consonant, its vowel and, if there is one, its
trailing consonant. -/
def hangulParts (n : Nat) : Text :=
  let i := n - 0xAC00
  let tail := i % 28
  [Char.ofNat (0x1100 + i / 588), Char.ofNat (0x1161 + i % 588 / 28)] ++
    if tail = 0 then [] else [Char.ofNat (0x11A7 + tail)]

/-- A character taken apart as far as possible. -/
def decomposed (c : Char) : Text :=
  let n := c.toNat
  if n < 0xC0 then [c]
  else if 0xAC00 ≤ n ∧ n ≤ 0xD7A3 then hangulParts n
  else
    match decompositions.find? fun d => d.1 = n with
    | some d => d.2.map Char.ofNat
    | none => [c]

/-- Put a character behind a text that is kept in reverse : a mark goes before those of a higher
class. -/
def insertMark (c : Char) : Text → Text
  | [] => [c]
  | d :: t =>
    if 0 < combiningClass c ∧ combiningClass c < combiningClass d then d :: insertMark c t
    else c :: d :: t

/-- The text with the marks after each character sorted by their class. -/
def sortMarks (t : Text) : Text :=
  (t.foldl (fun r c => insertMark c r) []).reverse

/-! ## Putting together -/

/-- The character that two characters become, if they compose. -/
def composed? (a b : Char) : Option Char :=
  let m := a.toNat
  let n := b.toNat
  if 0x1100 ≤ m ∧ m ≤ 0x1112 ∧ 0x1161 ≤ n ∧ n ≤ 0x1175 then
    some (Char.ofNat (0xAC00 + (m - 0x1100) * 588 + (n - 0x1161) * 28))
  else if 0xAC00 ≤ m ∧ m ≤ 0xD7A3 ∧ (m - 0xAC00) % 28 = 0 ∧ 0x11A8 ≤ n ∧ n ≤ 0x11C2 then
    some (Char.ofNat (m + (n - 0x11A7)))
  else
    (compositions.find? fun p => p.1 = [m, n]).map fun p => Char.ofNat p.2

/-- Put together the marks after `starter`. The marks that stay are kept in `waiting`, in reverse; a
mark is shut off from the starter by one of its own class or a higher one. -/
def compose (starter : Char) (waiting : Text) : Text → Text
  | [] => starter :: waiting.reverse
  | c :: t =>
    let shut := match waiting with
      | [] => false
      | d :: _ => combiningClass c ≤ combiningClass d
    match if shut then none else composed? starter c with
    | some whole => compose whole waiting t
    | none =>
      if combiningClass c = 0 then starter :: (waiting.reverse ++ compose c [] t)
      else compose starter (c :: waiting) t

/-- Put a text together, from the first character that is no mark on. -/
def composeAll : Text → Text
  | [] => []
  | c :: t => if combiningClass c = 0 then compose c [] t else c :: composeAll t

/-- The canonical normal form, in which all that composes is composed. -/
def normal (t : Text) : Text :=
  if t.all fun c => c.toNat < 0xC0 then t
  else composeAll (sortMarks (t.flatMap decomposed))

end CoverageNote.Text
