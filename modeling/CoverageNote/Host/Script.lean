import CoverageNote.Plan.Basic

/-!
# Scripts

A script fixes the answer to every question in advance, one for each kind of call. It has no state : the
same question always gets the same answer.
-/

namespace CoverageNote

/-- The answers of a host that are fixed in advance. -/
structure HostScript where
  connection : Except Failure Unit
  pullRequests : Except Failure (List PullRequest)
  pullRequestComments : Except Failure (List Comment)
  createdOnPullRequest : Except Failure Unit
  updatedOnPullRequest : Except Failure Unit
  commitComments : Except Failure (List Comment)
  createdOnCommit : Except Failure Unit
  updatedOnCommit : Except Failure Unit

/-- The answers to all questions. -/
structure Script where
  settings : Except Failure Settings
  report : Except Failure Text
  host : HostScript

/-- The answer to a call. -/
def HostScript.answer (host : HostScript) : (c : Call) → Except Failure c.Answer
  | .listPullRequests _ => host.pullRequests
  | .listPullRequestComments _ => host.pullRequestComments
  | .createPullRequestComment _ _ => host.createdOnPullRequest
  | .updatePullRequestComment _ _ => host.updatedOnPullRequest
  | .listCommitComments _ => host.commitComments
  | .createCommitComment _ _ => host.createdOnCommit
  | .updateCommitComment _ _ => host.updatedOnCommit

/-- The answer to a question. -/
def Script.answer (script : Script) : (q : Question) → Except Failure q.Answer
  | .settings => script.settings
  | .report => script.report
  | .connect _ => script.host.connection
  | .call c => script.host.answer c

/-- The world of a script. It has no state and sends nothing. -/
def Script.world (script : Script) : World Unit Empty where
  answer q s := (script.answer q, [], s)

end CoverageNote
