import CoverageNote.CommandLine.Wording
import CoverageNote.Console
import CoverageNote.Plan.Posting

/-!
# The program

The program reads its arguments and, unless they ask for something else or are wrong, carries out one
run in the world it is given. What is said to the reader during the run goes to standard output. The log of
the run goes to standard error, and behind it the failure that ends the run. Which lines the log has, and how
they look, is not decided here : it depends on the time and on what is wanted from it.

Arguments that do not ask for a run are answered without the world : nothing is asked of it, its state stays
as it is, and nothing is logged.
-/

namespace CoverageNote

/-- A program that has ended : its exit code, what it printed, the state of the world after it, and what
happened in order. -/
structure Program (σ ε : Type) where
  exitCode : Nat
  stdout : Text
  stderr : Text
  state : σ
  trace : List (Moment ε)

namespace Program

variable {σ ε : Type}

/-- How a failure is reported. -/
def report (failure : Failure) : Text :=
  "error: ".toList ++ failure.oneLine ++ ['\n']

/-- The program after a run, with what was logged during it. -/
def ofRun (logged : Text) (r : Run (Except Failure (Option Outcome)) σ ε) : Program σ ε where
  exitCode := match r.result with
    | .ok _ => 0
    | .error _ => 1
  stdout := Console.ofTrace r.trace
  stderr := logged ++ match r.result with
    | .ok _ => []
    | .error failure => report failure
  state := r.state
  trace := r.trace

/-- The program after an answer to its arguments. -/
def ofAnswer (request : CommandLine.Request) (message : Text) (s : σ) : Program σ ε where
  exitCode := request.exitCode
  stdout := if request.exitCode = 0 then message else []
  stderr := if request.exitCode = 0 then [] else message
  state := s
  trace := []

/-- Run the program with its arguments in a world. Of a run in which this happened `logged` says what is logged. -/
def run (logged : List (Moment ε) → Text) (world : World σ ε) (arguments : List Text) (s : σ) :
    Program σ ε :=
  match CommandLine.read arguments with
  | .post dryRun =>
    let r := (Posting.post dryRun).run world s
    ofRun (logged r.trace) r
  | request => ofAnswer request (request.message?.getD []) s

end Program

end CoverageNote
