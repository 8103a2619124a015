import CoverageNote.Report.Row

/-!
# The body of the comment

A summary is laid out in Markdown : an invisible marker by which the comment is found again, a line
with the total, and a folded section with the details. The section holds a table of the rows when the
details have any, and the details as they are, in a code block, when they have none.

The table shows the first `maxTableRows` rows; a row of ellipses stands for the others.
-/

namespace CoverageNote

/-- The line that marks the comments of this tool. -/
def marker : Text :=
  "<!-- coverage-comment -->".toList

/-- What a comment reports : the total, unless the tests failed before there was one, the coverage
that is asked for, and the report of the single functions. -/
structure Summary where
  total : Option Text
  minCoverage : Text
  details : Text
deriving Repr, DecidableEq

/-! ## The table -/

/-- The number of rows that a table shows. -/
def maxTableRows : Nat := 300

/-- The two lines above the rows : the names of the columns and their alignment. -/
def tableHead : List Text :=
  ["| File | Function | Coverage |".toList, "| --- | --- | ---: |".toList]

/-- The line of the table that stands for the rows not shown. -/
def ellipsisLine : Text :=
  "| … | … | … |".toList

/-- The line of the table that shows a row. -/
def Row.tableLine (row : Row) : Text :=
  "| ".toList ++ row.file ++ " | ".toList ++ row.function ++ " | ".toList ++ row.percent ++ " |".toList

/-- The lines of the table of `rows`. -/
def tableLines (rows : List Row) : List Text :=
  tableHead ++ (rows.take maxTableRows).map Row.tableLine ++
    if maxTableRows < rows.length then [ellipsisLine] else []

/-! ## The body -/

namespace Summary

/-- The marker and the line with the total. -/
def header (summary : Summary) : Text :=
  marker ++ "\n**Coverage**: ".toList ++
    match summary.total with
    | some total => total ++ "% (min: ".toList ++ summary.minCoverage ++ "%)".toList
    | none => "unavailable (tests failed before coverage generation)".toList

/-- The details as a code block. -/
def fenced (details : Text) : Text :=
  "```\n".toList ++ details ++ "\n```".toList

/-- The details as a table of their rows, or as a code block if they have none. -/
def detailsSection (summary : Summary) : Text :=
  let rows := Row.ofReport summary.details
  if rows.isEmpty then fenced summary.details else Text.joined ['\n'] (tableLines rows)

/-- The whole body of the comment. -/
def body (summary : Summary) : Text :=
  summary.header ++ "\n\n<details>\n<summary>Coverage details</summary>\n\n".toList ++
    summary.detailsSection ++ "\n</details>".toList

/-- Every body can be found again by the marker. -/
theorem mentions_marker_body (summary : Summary) : summary.body.mentions marker = true := by
  refine Text.mentions_iff.mpr (List.IsPrefix.isInfix ?_)
  simp only [body, header, List.append_assoc]
  exact List.prefix_append marker _

end Summary

end CoverageNote
