import CoverageNote.Plan.Basic

/-!
# Posting the coverage

The plan of a run : load the settings, get the details, lay out the body, and put it on its target,
into the comment that is there already or into a new one.

Some failures end the run and are its result : no settings, no connection, and the failure of the write
that decides it. The others are reported as a warning and the run goes on : without a report the
details are a placeholder, without a list of pull requests the target is the commit, a list of comments
that cannot be read counts as empty, and a comment of a commit that cannot be changed is written anew.
-/

namespace CoverageNote

/-- What the details say if the report command fails. -/
def detailsUnavailable : Text :=
  "Coverage details unavailable (could not run \"go tool cover -func\").".toList

namespace Posting

/-- A warning about a failure, with further fields and a message. -/
def warn (failure : Failure) (fields : List (Text × Text)) (message : Text) : Plan Unit :=
  .tell (.warning (("error".toList, failure.oneLine) :: fields ++ [("message".toList, message)]))

/-! ## The details -/

/-- The details that are given, unless they are empty, or else those of the report command. -/
def details (supplied : Option Text) : Plan Text :=
  match supplied.filter fun t => !t.isEmpty with
  | some details => pure details
  | none => do
    match ← Plan.query .report with
    | .ok output => pure output
    | .error failure =>
      warn failure [] "coverage report command failed".toList
      pure detailsUnavailable

/-- The body for the settings and the details of a run. -/
def body (settings : Settings) (details : Text) : Text :=
  Summary.body ⟨settings.coverageTotal, settings.minCoverage, details⟩

theorem mentions_marker_body (settings : Settings) (details : Text) :
    (body settings details).mentions marker = true :=
  Summary.mentions_marker_body _

/-! ## The target -/

/-- The target for the pull requests that are listed. -/
def targetOf (sha : Text) (pulls : List PullRequest) : Target :=
  match PullRequest.choose pulls with
  | some number => .pullRequest number
  | none => .commit sha

/-- The pull request of a commit, or the commit if there is none or they cannot be listed. -/
def target (sha : Text) : Plan Target := do
  match ← Plan.query (.call (.listPullRequests sha)) with
  | .ok pulls => pure (targetOf sha pulls)
  | .error failure =>
    warn failure [] "failed to list pull requests for commit".toList
    pure (targetOf sha [])

/-! ## The comment -/

/-- Say what is being done at the host. -/
def announce (message : Text) : Plan Unit :=
  .tell (.status "GitHub".toList message)

/-- Say that a comment is being changed. -/
def announceUpdate (id : Nat) (target : Target) : Plan Unit :=
  announce ("updating comment ".toList ++ Text.decimal id ++ " on ".toList ++ target.text)

/-- Say that a comment is being written. -/
def announceCreate (target : Target) : Plan Unit :=
  announce ("creating comment on ".toList ++ target.text)

/-- Change a comment on a pull request. -/
def changeOnPullRequest (number id : Nat) (body : Text) : Plan (Except Failure Outcome) := do
  announceUpdate id (.pullRequest number)
  let written ← Plan.query (.call (.updatePullRequestComment id body))
  return written.map fun _ => .updated (.pullRequest number) id

/-- Write a new comment on a pull request. -/
def createOnPullRequest (number : Nat) (body : Text) : Plan (Except Failure Outcome) := do
  announceCreate (.pullRequest number)
  let written ← Plan.query (.call (.createPullRequestComment number body))
  return written.map fun _ => .created (.pullRequest number)

/-- Put the body on a pull request. -/
def upsertPullRequest (number : Nat) (body : Text) : Plan (Except Failure Outcome) := do
  let comments ←
    match ← Plan.query (.call (.listPullRequestComments number)) with
    | .ok comments => pure comments
    | .error failure =>
      warn failure [("number".toList, Text.decimal number)]
        "failed to list pull request comments".toList
      pure []
  match Comment.findMarked comments with
  | some comment => changeOnPullRequest number comment.id body
  | none => createOnPullRequest number body

/-- Write a new comment on a commit. -/
def createOnCommit (sha : Text) (body : Text) : Plan (Except Failure Outcome) := do
  announceCreate (.commit sha)
  let written ← Plan.query (.call (.createCommitComment sha body))
  return written.map fun _ => .created (.commit sha)

/-- Change a comment on a commit, or write a new one if that fails. -/
def changeOnCommit (sha : Text) (id : Nat) (body : Text) : Plan (Except Failure Outcome) := do
  announceUpdate id (.commit sha)
  match ← Plan.query (.call (.updateCommitComment id body)) with
  | .ok _ => return .ok (.updated (.commit sha) id)
  | .error failure =>
    warn failure [("comment_id".toList, Text.decimal id)]
      "failed to update commit comment".toList
    createOnCommit sha body

/-- Put the body on a commit. -/
def upsertCommit (sha : Text) (body : Text) : Plan (Except Failure Outcome) := do
  match ← Plan.query (.call (.listCommitComments sha)) with
  | .error failure =>
    warn failure [("sha".toList, sha)] "failed to list commit comments".toList
    createOnCommit sha body
  | .ok comments =>
    match Comment.findMarked comments with
    | some comment => changeOnCommit sha comment.id body
    | none => createOnCommit sha body

/-- Put the body on a target. -/
def upsert (target : Target) (body : Text) : Plan (Except Failure Outcome) :=
  match target with
  | .pullRequest number => upsertPullRequest number body
  | .commit sha => upsertCommit sha body

/-! ## The whole run -/

/-- Say what the run is about. -/
def introduce (settings : Settings) (dryRun : Bool) : Plan Unit := do
  .tell (.heading "Session".toList)
  .tell (.value "Repository".toList (settings.owner ++ ['/'] ++ settings.repo))
  .tell (.value "Commit".toList settings.sha)
  .tell (.value "Mode".toList (if dryRun then "dry-run".toList else "post-comment".toList))

/-- Show the body and post nothing. -/
def preview (body : Text) : Plan Unit := do
  .tell (.heading "Dry Run: Coverage Comment".toList)
  .tell (.plain body)

/-- Connect to the host and put the body where it belongs. -/
def publish (settings : Settings) (body : Text) : Plan (Except Failure Outcome) := do
  match ← Plan.query (.connect settings) with
  | .error failure => return .error failure
  | .ok _ =>
    .tell (.heading "Resolve Target".toList)
    let target ← target settings.sha
    .tell (.value "Target".toList target.text)
    .tell (.heading "Post Comment".toList)
    upsert target body

/-- A run. A dry run ends with the body on the screen, and no outcome. -/
def post (dryRun : Bool) : Plan (Except Failure (Option Outcome)) := do
  match ← Plan.query .settings with
  | .error failure => return .error (failure.within "failed to load settings".toList)
  | .ok settings =>
    introduce settings dryRun
    let details ← details settings.coverageDetails
    let body := body settings details
    if dryRun then
      preview body
      return .ok none
    else
      let outcome ← publish settings body
      return outcome.map some

end Posting

end CoverageNote
