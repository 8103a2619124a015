import CoverageNote.Plan.Basic

/-!
# The console

What is said to the reader is printed line by line : a heading between equality signs below an empty
line, a named value with the name in a column of its own, what is being done behind its scope in
brackets, and a text as it is. A warning is not printed here.
-/

namespace CoverageNote.Console

/-- The width of the column of names. -/
def columnWidth : Nat := 12

/-- The signs on both sides of a heading. -/
def rule : Text :=
  List.replicate 20 '='

/-- What is printed for a note. -/
def printed : Note → Text
  | .heading name => ['\n'] ++ rule ++ [' '] ++ name ++ [' '] ++ rule ++ ['\n']
  | .value key value => key.padded columnWidth ++ ": ".toList ++ value ++ ['\n']
  | .status scope message => ['['] ++ scope.padded columnWidth ++ "] ".toList ++ message ++ ['\n']
  | .plain line => line ++ ['\n']
  | .warning _ => []

/-- What is printed during a run. -/
def ofTrace {ε : Type} (trace : List (Moment ε)) : Text :=
  trace.flatMap fun
    | .said n => printed n
    | .asked _ _ _ => []

end CoverageNote.Console
