import CoverageNote.Text.Blank
import CoverageNote.Text.Lines
import CoverageNote.Text.Pattern

/-!
# Rows of a coverage report

A report lists one function a line : the file, a line number, the function and its coverage, as in
`pkg/foo.go:42: MyFunc 87.5%`. `Row.ofLine?` reads one line by four patterns : the percentage at the
end of the line, what stands before it, the file and the function on the two sides of the first colon,
and a number at the end of the function's name, which is dropped. The patterns for the end of a text
are those of the text read from right to left.

Lines of any other form give no row, and neither does the line with the total. `Row.ofReport` keeps
the rows of a report in order.
-/

namespace CoverageNote

/-- The coverage of one function. The percentage is kept as it is written, with its sign. -/
structure Row where
  file : Text
  function : Text
  percent : Text
deriving Repr, DecidableEq

namespace Row

/-! ## The patterns -/

open Pattern

/-- Digits, or digits with a point and more digits, from right to left. -/
def percentNumber : Pattern :=
  many1 Char.isDigit ++ maybe (char '.' ++ many1 Char.isDigit)

/-- A percentage at the end of the text, with its number as a group, from right to left. -/
def trailingPercent : Pattern :=
  many isBlank ++ char '%' ++ group percentNumber

/-- A percentage at the end of the text with the blank characters before it, from right to left. -/
def spacedPercent : Pattern :=
  many isBlank ++ char '%' ++ percentNumber ++ many isBlank

/-- Any character within a line. -/
def isInLine (c : Char) : Bool :=
  c != '\n'

/-- A file, a colon, a line number with its colon if there is one, and a function. The file is as
short as it can be. -/
def fileAndFunction : Pattern :=
  group (few1 isInLine) ++ char ':' ++ maybe (many1 Char.isDigit ++ char ':') ++ many isBlank ++
    group (many1 isInLine) ++ atEnd

/-- A number at the end of the text with the blank characters before it, from right to left. -/
def trailingNumber : Pattern :=
  many1 Char.isDigit ++ many1 isBlank

/-! ## Reading -/

/-- The file and the function that a line without its percentage names. Where the line is not of the
usual form, the first colon separates them. -/
def names (left : Text) : Text × Text :=
  match fileAndFunction.matchStart? left with
  | some ⟨_, [file, function], _⟩ => (file.trim, function.trim)
  | _ =>
    match left.cut? ':' with
    | some (file, function) => (file.trim, function.trim)
    | none => ([], [])

/-- The function's name without a number at its end, and then without one colon at its end. -/
def bareFunction (function : Text) : Text :=
  let name := trailingNumber.eraseEnd function
  (name.dropTail? [':']).getD name

/-- What the line with the total starts with. -/
def totalHead : Text :=
  "total:".toList

/-- Read one line of a report. -/
def ofLine? (raw : Text) : Option Row :=
  let line := raw.trim
  if line.isEmpty || totalHead.isPrefixOf line || !line.contains '%' then none
  else
    match trailingPercent.matchEnd? line with
    | some ⟨_, number :: _, _⟩ =>
      let (file, function) := names (spacedPercent.eraseEnd line).trim
      let function := bareFunction function
      if file.isEmpty || function.isEmpty then none
      else some ⟨file, function, number ++ ['%']⟩
    | _ => none

/-- The rows of a report, in the order of their lines. -/
def ofReport (report : Text) : List Row :=
  report.lines.filterMap ofLine?

end Row

end CoverageNote
