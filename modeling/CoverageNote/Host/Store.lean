import CoverageNote.Host.Call
import CoverageNote.Failure

/-!
# A host in memory

The store keeps the comments on all subjects in the order in which they were written, gives each one the
next id, and can be told which kinds of call fail. A call that fails changes nothing. A subject is a
name, such as `pull:7` for a pull request; there may be others than those of the targets.
-/

namespace CoverageNote

/-- A comment with the subject it is on. -/
structure Entry where
  on : Text
  comment : Comment
deriving Repr, DecidableEq

/-- A host in memory : its pull requests, its comments in the order of writing, the names of the kinds
of call that fail, and the last id that was given. -/
structure Store where
  pulls : List PullRequest
  entries : List Entry
  failing : List Text
  lastId : Nat
deriving Repr, DecidableEq

namespace Store

/-- A host without anything on it. -/
def empty : Store :=
  ⟨[], [], [], 0⟩

/-! ## Reading -/

/-- The subjects that have comments, in the order of their first ones. -/
def subjects (s : Store) : List Text :=
  (s.entries.map Entry.on).eraseDups

/-- The comments on a subject, in the order of writing. -/
def commentsOn (s : Store) (subject : Text) : List Comment :=
  (s.entries.filter fun e => e.on = subject).map Entry.comment

/-- Whether there is a comment with this id. -/
def hasId (s : Store) (id : Nat) : Bool :=
  s.entries.any fun e => e.comment.id = id

/-! ## Writing -/

/-- Write a comment on a subject, with the next id. -/
def add (s : Store) (subject body : Text) : Store :=
  { s with
    entries := s.entries ++ [⟨subject, s.lastId + 1, body⟩]
    lastId := s.lastId + 1 }

/-- Give the comment with this id a new body. -/
def setBody (s : Store) (id : Nat) (body : Text) : Store :=
  { s with
    entries := s.entries.map fun e =>
      if e.comment.id = id then { e with comment := { e.comment with body := body } } else e }

/-- Take away the comment with this id. Its id is not given again. -/
def delete (s : Store) (id : Nat) : Store :=
  { s with entries := s.entries.filter fun e => e.comment.id ≠ id }

/-! ## Calls -/

/-- The failure of a call of a kind that is told to fail. -/
def failed (c : Call) : Failure :=
  .plain ("store: ".toList ++ c.name ++ " fails".toList)

/-- The failure of a call about a comment that is not there. -/
def noComment (id : Nat) : Failure :=
  .plain ("store: no comment ".toList ++ Text.decimal id)

/-- Change a comment, if it is there. -/
def update (s : Store) (id : Nat) (body : Text) : Except Failure Unit × Store :=
  if s.hasId id then (.ok (), s.setBody id body) else (.error (noComment id), s)

/-- Carry out a call that does not fail. -/
def perform (s : Store) : (c : Call) → Except Failure c.Answer × Store
  | .listPullRequests _ => (.ok s.pulls, s)
  | .listPullRequestComments number => (.ok (s.commentsOn (Target.subject (.pullRequest number))), s)
  | .createPullRequestComment number body => (.ok (), s.add (Target.subject (.pullRequest number)) body)
  | .updatePullRequestComment id body => s.update id body
  | .listCommitComments sha => (.ok (s.commentsOn (Target.subject (.commit sha))), s)
  | .createCommitComment sha body => (.ok (), s.add (Target.subject (.commit sha)) body)
  | .updateCommitComment id body => s.update id body

/-- Answer a call. -/
def call (s : Store) (c : Call) : Except Failure c.Answer × Store :=
  if s.failing.contains c.name then (.error (failed c), s) else s.perform c

end Store

end CoverageNote
