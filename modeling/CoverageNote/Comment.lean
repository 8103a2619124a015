import CoverageNote.Report.Body

/-!
# Comments and where they go

A comment goes to a pull request of the commit, if there is one, and else to the commit itself.
`PullRequest.choose` says which pull request that is, and `Comment.findMarked` which comment of a
target is the one to keep up to date : the first that holds the marker.
-/

namespace CoverageNote

/-- A pull request as the host lists it, either part of which may be missing. -/
structure PullRequest where
  number : Option Nat
  state : Option Text
deriving Repr, DecidableEq

/-- A comment as the host lists it. -/
structure Comment where
  id : Nat
  body : Text
deriving Repr, DecidableEq

/-- What a comment is written on. -/
inductive Target where
  | pullRequest (number : Nat)
  | commit (sha : Text)
deriving Repr, DecidableEq

/-- What became of the comment. -/
inductive Outcome where
  | updated (target : Target) (comment : Nat)
  | created (target : Target)
deriving Repr, DecidableEq

/-- The target as it is named to the reader. -/
def Target.text : Target → Text
  | .pullRequest number => "pull request #".toList ++ Text.decimal number
  | .commit sha => "commit ".toList ++ sha

/-- The subject that the comments on the target are kept under. -/
def Target.subject : Target → Text
  | .pullRequest number => "pull:".toList ++ Text.decimal number
  | .commit sha => "commit:".toList ++ sha

namespace PullRequest

/-- Whether the pull request is open. -/
def isOpen (pull : PullRequest) : Bool :=
  pull.state = some "open".toList

/-- The number of the first open pull request, or of the first one if none is open. There is none with
the number 0. -/
def choose (pulls : List PullRequest) : Option Nat :=
  (((pulls.find? isOpen).or pulls.head?).bind number).filter (0 < ·)

end PullRequest

namespace Comment

/-- Whether the body holds `mark` somewhere. -/
def holds (mark : Text) (comment : Comment) : Bool :=
  comment.body.mentions mark

/-- The first comment that holds `mark`. -/
def find? (mark : Text) (comments : List Comment) : Option Comment :=
  comments.find? (holds mark)

/-- The first comment of this tool. -/
def findMarked (comments : List Comment) : Option Comment :=
  find? marker comments

end Comment

end CoverageNote
