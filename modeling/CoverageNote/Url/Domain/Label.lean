import CoverageNote.Text.Normal
import CoverageNote.Url.Domain.Classes
import CoverageNote.Url.Domain.Mapping

/-!
# Labels of domain names

What a label may look like, once it is mapped and in its normal form : every character stands for
itself, the first one is no mark, a joiner stands only where it changes how letters join, and in a
domain name with right-to-left characters each label keeps to one direction.
-/

namespace CoverageNote.Domain

/-! ## Joiners -/

/-- The class of the marks that suppress a vowel. A joiner after one of them is always allowed. -/
def viramaClass : Nat := 9

/-- Whether the first character that is not passed over joins the next one, or is joined by it. -/
def joins (allowed : Joining → Bool) (t : Text) : Bool :=
  match (t.map joining).dropWhile (· == .transparent) with
  | [] => false
  | j :: _ => allowed j

/-- Whether each joiner is allowed where it stands. The characters before are given in reverse. -/
def joinersAllowed (before : Text) : Text → Bool
  | [] => true
  | c :: t =>
    let afterVirama := match before with
      | [] => false
      | d :: _ => Text.combiningClass d == viramaClass
    let here :=
      if c = '\u200C' then
        afterVirama ||
          joins (fun j => j == .left || j == .dual) before &&
            joins (fun j => j == .right || j == .dual) t
      else if c = '\u200D' then afterVirama
      else true
    here && joinersAllowed (c :: before) t

/-! ## Directions -/

/-- A direction that makes the whole domain name subject to the rules on directions. -/
def Direction.isRightToLeft (d : Direction) : Bool :=
  d == .R || d == .AL || d == .AN

/-- The rule for the directions of one label, given in order : a label that begins from right to left
stays so and ends in a letter or a number, with numbers of one kind only, and one that begins from left
to right does the same. Marks at the end do not count. -/
def keepsDirection (ds : List Direction) : Bool :=
  match ds, ds.reverse.dropWhile (· == .NSM) with
  | first :: _, last :: _ =>
    if first = .R ∨ first = .AL then
      (ds.all fun d => [.R, .AL, .AN, .EN, .ES, .CS, .ET, .ON, .BN, .NSM].contains d) &&
        [.R, .AL, .EN, .AN].contains last && !(ds.contains .EN && ds.contains .AN)
    else if first = .L then
      (ds.all fun d => [.L, .EN, .ES, .CS, .ET, .ON, .BN, .NSM].contains d) &&
        [.L, .EN].contains last
    else false
  | [], _ => true
  | _, _ => false

/-! ## Valid labels -/

/-- A label apart from its direction. -/
def isValidLabel (t : Text) : Bool :=
  t.all isValid && t.normal == t && !"xn--".toList.isPrefixOf t && !t.contains '.' &&
    joinersAllowed [] t &&
    match t with
    | [] => true
    | c :: _ => !marks.contains c.toNat

end CoverageNote.Domain
