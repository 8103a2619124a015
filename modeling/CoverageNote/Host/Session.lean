import CoverageNote.Host.Store
import CoverageNote.Plan.Posting

/-!
# Sessions

A session is a sequence of steps over one host in memory : runs of this tool, and what others do to the
host in between.
-/

namespace CoverageNote

/-- One step of a session. A run takes its settings from its environment and its report from a script;
the others change the host. -/
inductive SessionStep where
  | post (env : Environment) (report : Except Failure Text) (dryRun : Bool)
  | setPulls (pulls : List PullRequest)
  | addComment (on body : Text)
  | deleteComment (id : Nat)
  | setFailing (names : List Text)

namespace Store

/-- The world of a run over a host in memory. -/
def world (settings : Except Failure Settings) (report : Except Failure Text) : World Store Empty where
  answer
    | .settings, s => (settings, [], s)
    | .report, s => (report, [], s)
    | .connect _, s => (.ok (), [], s)
    | .call c, s =>
      let (answer, s') := s.call c
      (answer, [], s')

end Store

namespace SessionStep

/-- What a run in a session leaves behind. -/
abbrev PostRun :=
  Run (Except Failure (Option Outcome)) Store Empty

/-- A run over a host in memory. -/
def postRun (env : Environment) (report : Except Failure Text) (dryRun : Bool) (s : Store) : PostRun :=
  (Posting.post dryRun).run (Store.world (Settings.ofEnvironment env) report) s

/-- Carry out a step : what a run leaves behind, if the step is one, and the host after it. -/
def perform (s : Store) : SessionStep → Option PostRun × Store
  | post env report dryRun =>
    let r := postRun env report dryRun s
    (some r, r.state)
  | setPulls pulls => (none, { s with pulls := pulls })
  | addComment on body => (none, s.add on body)
  | deleteComment id => (none, s.delete id)
  | setFailing names => (none, { s with failing := names })

end SessionStep

/-- Carry out the steps of a session : for each one what a run leaves behind and the host after it. -/
def Store.runSession (s : Store) : List SessionStep → List (Option SessionStep.PostRun × Store)
  | [] => []
  | step :: steps =>
    let r := step.perform s
    r :: r.2.runSession steps

end CoverageNote
