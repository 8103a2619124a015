import CoverageNote.Failure
import CoverageNote.Text.Blank
import CoverageNote.Text.Utf8

/-!
# The report command

The details of the coverage come from a command, whose output is the report if it succeeds. If it does
not, the failure shows how it ended and what it wrote to its error output. The command is carried out by
a shell, which is looked up in the search path of the environment.
-/

namespace CoverageNote

/-- The command that reports the coverage. -/
def reportCommand : Text :=
  "go tool cover -func=coverage.out".toList

/-- How a command ended : with an exit code, or by a signal. -/
inductive Ending where
  | exit (code : Nat)
  | signal (number : Nat)
deriving Repr, DecidableEq

/-- The names of the signals from 1 on, without the `SIG` that they begin with. -/
def signalNames : List Text :=
  ["HUP INT QUIT ILL TRAP ABRT BUS FPE KILL USR1 SEGV USR2 PIPE ALRM TERM STKFLT CHLD",
    "CONT STOP TSTP TTIN TTOU URG XCPU XFSZ VTALRM PROF WINCH IO PWR SYS"].flatMap fun line =>
    Text.fields ' ' line.toList

/-- The name of a signal, without the `SIG` that it begins with. -/
def signalName? (number : Nat) : Option Text :=
  if number = 0 then none else signalNames[number - 1]?

/-- How a command ended, in words. -/
def Ending.text : Ending → Text
  | exit code => "exit status: ".toList ++ Text.decimal code
  | signal number =>
    "signal: ".toList ++ Text.decimal number ++
      match signalName? number with
      | some name => " (SIG".toList ++ name ++ [')']
      | none => []

/-- A command that has ended, with all that it wrote. -/
structure Finished where
  stdout : List UInt8
  stderr : List UInt8
  ending : Ending
deriving Repr, DecidableEq

namespace Finished

/-- What the command wrote to its error output, for a message. -/
def complaint (f : Finished) : Text :=
  let t := (Utf8.decodeLossy f.stderr).trim
  if t.isEmpty then "no stderr output".toList else t

/-- The failure of a command that did not succeed. -/
def failure (f : Finished) (command : Text) : Failure :=
  .plain (['\''] ++ command ++ "' failed (".toList ++ f.ending.text ++ "): ".toList ++ f.complaint)

/-- The output of a command, if it succeeded. -/
def output (f : Finished) (command : Text) : Except Failure Text :=
  if f.ending = .exit 0 then .ok (Utf8.decodeLossy f.stdout) else .error (f.failure command)

end Finished

/-! ## The shell -/

/-- The directories that hold the shell. -/
def shellDirectories : List Text :=
  ["/bin".toList, "/usr/bin".toList]

/-- The names on the way to a directory. -/
def wayTo (directory : Text) : List Text :=
  (directory.fields '/').filter fun name => name ≠ [] ∧ name ≠ ['.']

/-- Whether the shell is found along a search path. Without one the usual directories are searched. -/
def findsShell : Option Text → Bool
  | none => true
  | some path =>
    (path.fields ':').any fun directory =>
      directory.head? = some '/' && (shellDirectories.map wayTo).contains (wayTo directory)

/-- The failure of a command for which no shell is found. -/
def noShell (command : Text) : Failure :=
  (Failure.plain "No such file or directory (os error 2)".toList).within
    ("failed to spawn shell for '".toList ++ command ++ ['\''])

/-- The report of a command that ends so if a shell carries it out, given the search path. -/
def Finished.report (f : Finished) (path : Option Text) (command : Text) : Except Failure Text :=
  if findsShell path then f.output command else .error (noShell command)

end CoverageNote
