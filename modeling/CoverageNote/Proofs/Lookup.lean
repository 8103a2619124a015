import CoverageNote.Proofs.Exchange

/-!
# Lookups

A run asks for four things that it can do without : the report, the pull requests of its commit, and the
comments on a target of either kind. Each time, if the answer is a failure, a warning is said, and the run
goes on all the same, with what it reads from the answer (`Posting.lookup`). So whatever holds of a lookup
holds of these four, and the parts of a run that ask for them are lookups followed by what is done with
what was read (`details_of_none`, `target_eq`, `upsert_eq`).

In this form the body is put on both kinds of target in the same way : the comments are looked up, and then
there is a write, by the first of them that is marked (`Posting.writeOn`).
-/

namespace CoverageNote

variable {α σ ε : Type}

namespace Posting

/-! ## One lookup -/

/-- Ask for something, with a warning if that fails, and go on with what is read from the answer. -/
def lookup (q : Question) (fields : List (Text × Text)) (message : Text)
    (read : Except Failure q.Answer → α) : Plan α := do
  let answer ← Plan.query q
  if let .error failure := answer then
    warn failure fields message
  return read answer

/-- What is said about an answer : a warning if it is a failure, and else nothing. -/
def warnings (fields : List (Text × Text)) (message : Text) : Except Failure α → List (Moment ε)
  | .ok _ => []
  | .error failure => [.said (.warning
      (("error".toList, failure.oneLine) :: fields ++ [("message".toList, message)]))]

@[simp]
theorem exchanges_answered (q : Question) (answer : Except Failure q.Answer) (sent : List ε)
    (fields : List (Text × Text)) (message : Text) :
    exchanges (.asked q answer sent :: warnings fields message answer) = [⟨q, answer⟩] := by
  cases answer with
  | ok a => rfl
  | error failure => rfl

/-- A lookup asks its question, warns if that fails, and reads on in either case. -/
theorem run_lookup (world : World σ ε) (s : σ) (q : Question) (fields : List (Text × Text))
    (message : Text) (read : Except Failure q.Answer → α) :
    (lookup q fields message read).run world s =
      ⟨read (world.answer q s).1, (world.answer q s).2.2,
        .asked q (world.answer q s).1 (world.answer q s).2.1 ::
          warnings fields message (world.answer q s).1⟩ := by
  unfold lookup
  simp only [Plan.run_bind, Plan.run_query]
  cases (world.answer q s).1 with
  | ok answer => rfl
  | error failure => rfl

/-! ## The parts of a run -/

/-- Write a new comment on a target. -/
def create (target : Target) (body : Text) : Plan (Except Failure Outcome) :=
  match target with
  | .pullRequest number => createOnPullRequest number body
  | .commit sha => createOnCommit sha body

/-- Change a comment on a target. -/
def change (target : Target) (id : Nat) (body : Text) : Plan (Except Failure Outcome) :=
  match target with
  | .pullRequest number => changeOnPullRequest number id body
  | .commit sha => changeOnCommit sha id body

/-- Change the comment that was found on a target, or write a new one if none was. -/
def writeOn (target : Target) (body : Text) : Option Comment → Plan (Except Failure Outcome)
  | some comment => change target comment.id body
  | none => create target body

/-- Look up the details in the report. -/
def reportedDetails : Plan Text :=
  lookup .report [] "coverage report command failed".toList fun reported =>
    Option.getD reported.toOption detailsUnavailable

/-- Look up the comments on a target. -/
def comments : Target → Plan (List Comment)
  | .pullRequest number =>
    lookup (.call (.listPullRequestComments number)) [("number".toList, Text.decimal number)]
      "failed to list pull request comments".toList fun listed => Option.getD listed.toOption []
  | .commit sha =>
    lookup (.call (.listCommitComments sha)) [("sha".toList, sha)]
      "failed to list commit comments".toList fun listed => Option.getD listed.toOption []

/-- Details that are given are taken as they are. -/
theorem details_of_some {supplied : Option Text} {given : Text}
    (h : (supplied.filter fun t => !t.isEmpty) = some given) : details supplied = pure given := by
  rw [details, h]

theorem details_of_none {supplied : Option Text}
    (h : (supplied.filter fun t => !t.isEmpty) = none) : details supplied = reportedDetails := by
  rw [details, h]
  refine congrArg (Plan.ask .report) (funext fun reported => ?_)
  cases reported with
  | ok output => rfl
  | error failure => rfl

/-- The target is looked up in the pull requests of the commit. -/
theorem target_eq (sha : Text) :
    target sha = lookup (.call (.listPullRequests sha)) []
      "failed to list pull requests for commit".toList
      fun listed => targetOf sha (listed.toOption.getD []) := by
  refine congrArg (Plan.ask _) (funext fun listed => ?_)
  cases listed with
  | ok pulls => rfl
  | error failure => rfl

/-- To put a comment in place, the comments are looked up and then one is written. -/
theorem upsert_eq (target : Target) (body : Text) :
    upsert target body =
      comments target >>= fun listed => writeOn target body (Comment.findMarked listed) := by
  cases target with
  | pullRequest number =>
    refine congrArg (Plan.ask _) (funext fun listed => ?_)
    cases listed with
    | ok found => rfl
    | error failure => rfl
  | commit sha =>
    refine congrArg (Plan.ask _) (funext fun listed => ?_)
    cases listed with
    | ok found =>
      show (match Comment.findMarked found with
        | some comment => changeOnCommit sha comment.id body
        | none => createOnCommit sha body) = writeOn (.commit sha) body (Comment.findMarked found)
      cases Comment.findMarked found with
      | some comment => rfl
      | none => rfl
    | error failure => rfl

end Posting

end CoverageNote
