import CoverageNote.Url.Domain.Label
import CoverageNote.Url.Domain.Punycode

/-!
# Domain names

A domain name is looked up in ASCII : its characters are mapped, each label with other characters is
checked and written in Punycode behind `xn--`, and a label that already begins so is checked as what it
stands for. Labels may be empty, and in ASCII of any length; what is written in Punycode has its limits.
-/

namespace CoverageNote.Domain

/-- A character of ASCII. -/
def isAscii (c : Char) : Bool :=
  c.toNat < 0x80

/-- What a label in ASCII begins with if it stands for one that is not. -/
def aceHead : Text :=
  "xn--".toList

/-- The most characters of a label that is not in ASCII. -/
def labelLimit : Nat := 1000

/-- The most characters behind `xn--`. -/
def codeLimit : Nat := 2000

/-- A label that is not in ASCII and may be written in Punycode. -/
def isForeignLabel (t : Text) : Bool :=
  !t.all isAscii && t.length ≤ labelLimit && isValidLabel t

/-- The label that a mapped label stands for, if it is well-formed. -/
def readLabel? (t : Text) : Option Text :=
  match t.dropHead? aceHead with
  | none => if t.all isAscii || isForeignLabel t then some t else none
  | some code =>
    if t.all isAscii && code.length ≤ codeLimit then
      (Punycode.decode? code).filter isForeignLabel
    else none

/-- A label in ASCII. -/
def writeLabel (t : Text) : Text :=
  if t.all isAscii then t else aceHead ++ Punycode.encode t

/-- The characters of ASCII that no domain name contains. -/
def isForbidden (c : Char) : Bool :=
  c.toNat ≤ 0x20 || c.toNat == 0x7F || "%#/:<>?@[\\]^|".toList.contains c

/-- The domain name in ASCII, if it is valid. -/
def toAscii? (t : Text) : Option Text :=
  let mapped : Text := t.flatMap fun c => if isAscii c then [c.toLower] else mapChar c
  match (mapped.normal.fields '.').mapM readLabel? with
  | none => none
  | some labels =>
    let directions := labels.map fun l => l.map direction
    if (directions.any fun ds => ds.any Direction.isRightToLeft) && !directions.all keepsDirection then
      none
    else
      let ascii := Text.joined ['.'] (labels.map writeLabel)
      if ascii.any isForbidden then none else some ascii

end CoverageNote.Domain
