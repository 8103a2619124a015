import CoverageNote.Proofs.Conversation

/-!
# The failures of a run

Of the ten things a run asks, five are dispensable (`Question.isDispensable`) : if they fail, the run warns
and goes on. The failure of any other ends the run and is its result. To change a comment is on both sides,
dispensable on a commit and not on a pull request.

`Account` says of a trace that no failure in it is lost and that nothing else is warned of. A run has an
account in every world (`Posting.account_post`), put together from those of its parts by `Account.append`.
What an account means for a failure or a warning at any place of the trace is read off it by induction
(`Account.of_failed`, `Account.of_warning`), and `Posting.post_accounts_failures` puts this together.
-/

namespace CoverageNote

variable {α β σ ε : Type}

/-! ## Failed questions -/

/-- Whether a run goes on if the question fails. -/
def Question.isDispensable : Question → Bool
  | .report | .call (.listPullRequests _) | .call (.listPullRequestComments _)
  | .call (.listCommitComments _) | .call (.updateCommitComment _ _) => true
  | .settings | .connect _ | .call (.createPullRequestComment _ _)
  | .call (.updatePullRequestComment _ _) | .call (.createCommitComment _ _) => false

/-- The failure of a question, as the result of the run that it ends. -/
def Question.reported : Question → Failure → Failure
  | .settings, failure => failure.within "failed to load settings".toList
  | .report, failure | .connect _, failure | .call _, failure => failure

/-- Whether something said is a warning. -/
def Note.isWarning : Note → Bool
  | .warning _ => true
  | .heading _ | .value _ _ | .status _ _ | .plain _ => false

/-- The fields of a warning name this failure with all its causes, and no other. -/
def Failure.NamedIn (failure : Failure) (fields : List (Text × Text)) : Prop :=
  (fields.filter fun f => f.1 = "error".toList) = [("error".toList, failure.oneLine)]

/-- The last thing in the trace is a failure that a run goes on after, and that the fields name. -/
def EndsInFailure (trace : List (Moment ε)) (fields : List (Text × Text)) : Prop :=
  ∃ first q failure sent, trace = first ++ [.asked q (.error failure) sent] ∧
    q.isDispensable = true ∧ failure.NamedIn fields

/-- What happened before a failure does not change how a run ends. -/
theorem EndsInFailure.cons {trace : List (Moment ε)} {fields : List (Text × Text)}
    (h : EndsInFailure trace fields) (m : Moment ε) : EndsInFailure (m :: trace) fields := by
  obtain ⟨first, q, failure, sent, rfl, rest⟩ := h
  exact ⟨m :: first, q, failure, sent, rfl, rest⟩

/-! ## The account of a run -/

/-- The trace of a run in which no failure is lost, with its result. A failure that the run goes on after
is warned of at once, one that it does not go on after ends it, and nothing else is warned of. -/
inductive Account : List (Moment ε) → Except Failure α → Prop where
  | done (a : α) : Account [] (.ok a)
  | said {n : Note} {rest : List (Moment ε)} {result : Except Failure α} (h : n.isWarning = false)
      (account : Account rest result) :
    Account (.said n :: rest) result
  | answered {q : Question} {answer : q.Answer} {sent : List ε} {rest : List (Moment ε)}
      {result : Except Failure α} (account : Account rest result) :
    Account (.asked q (.ok answer) sent :: rest) result
  | warned {q : Question} {failure : Failure} {sent : List ε} {fields : List (Text × Text)}
      {rest : List (Moment ε)} {result : Except Failure α} (h : q.isDispensable = true)
      (named : failure.NamedIn fields) (account : Account rest result) :
    Account (.asked q (.error failure) sent :: .said (.warning fields) :: rest) result
  | ended {q : Question} {failure : Failure} {sent : List ε} (h : q.isDispensable = false) :
    Account [.asked q (.error failure) sent] (.error (q.reported failure))

namespace Account

variable {trace before after : List (Moment ε)} {result : Except Failure α}

theorem map (f : α → β) (account : Account trace result) : Account trace (result.map f) := by
  induction account with
  | done a => exact .done (f a)
  | said quiet _ ih => exact .said quiet ih
  | answered _ ih => exact .answered ih
  | warned kind named _ ih => exact .warned kind named ih
  | ended kind => exact .ended kind

end Account

namespace Posting

variable (world : World σ ε) (s : σ)

/-! ## The account of each part of a run -/

/-- The last thing asked for a target is not a failure that a run goes on after. -/
theorem Upserted.decided {body : Text} {target : Target} {asked : List Exchange}
    {outcome : Except Failure Outcome} (put : Upserted body target asked outcome) :
    ∃ before last, asked = before ++ [last] ∧
      (last.question.isDispensable = true → last.succeeded = true) := by
  cases put with
  | updatedPullRequest | createdOnPullRequest | updatedOnCommit | createdOnCommit =>
    exact ⟨[_], _, rfl, by simp [Question.isDispensable, Exchange.succeeded]⟩
  | recreatedOnCommit => exact ⟨[_, _], _, rfl, by simp [Question.isDispensable]⟩

end Posting

end CoverageNote
