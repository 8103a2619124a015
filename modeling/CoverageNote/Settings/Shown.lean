import CoverageNote.Settings

/-!
# Settings in a log

The settings are shown as a record of named fields, on one line or with one field a line. The token is
never shown, and of the details only their size in UTF-8.
-/

namespace CoverageNote

/-- A value in a log : a plain word, or a value that may be missing. -/
inductive Shown where
  | word (t : Text)
  | missing
  | present (value : Text)

namespace Shown

/-- The value on one line. -/
def line : Shown → Text
  | word t => t
  | missing => "None".toList
  | present value => "Some(".toList ++ value ++ [')']

/-- The value behind an indented field, over several lines if it has an inner part. -/
def block : Shown → Text
  | present value => "Some(\n        ".toList ++ value ++ ",\n    )".toList
  | v => v.line

/-- A text that may be missing. -/
def ofText? : Option Text → Shown
  | none => missing
  | some t => present t.quoted

end Shown

namespace Settings

/-- What stands for the token. -/
def redacted : Text :=
  "<redacted>".toList

/-- The fields that are shown, in order. -/
def shownFields (s : Settings) : List (Text × Shown) :=
  [("token".toList, .word redacted.quoted),
    ("api_base".toList, .word s.apiBase.quoted),
    ("owner".toList, .word s.owner.quoted),
    ("repo".toList, .word s.repo.quoted),
    ("sha".toList, .word s.sha.quoted),
    ("coverage_total".toList, .ofText? s.coverageTotal),
    ("coverage_details".toList,
      match s.coverageDetails with
      | none => .missing
      | some details => .present (Text.decimal (Utf8.size details))),
    ("min_coverage".toList, .word s.minCoverage.quoted)]

/-- The name of the record. -/
def recordName : Text :=
  "Settings".toList

/-- The settings on one line. -/
def shown (s : Settings) : Text :=
  recordName ++ " \x7b ".toList ++
    Text.joined ", ".toList (s.shownFields.map fun f => f.1 ++ ": ".toList ++ f.2.line) ++
    " \x7d".toList

/-- The settings with one field a line. -/
def shownInLines (s : Settings) : Text :=
  recordName ++ " \x7b\n".toList ++
    s.shownFields.flatMap (fun f => "    ".toList ++ f.1 ++ ": ".toList ++ f.2.block ++ ",\n".toList) ++
    ['}']

end Settings

end CoverageNote
