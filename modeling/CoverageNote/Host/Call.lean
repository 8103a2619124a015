import CoverageNote.Comment

/-!
# Calls to the host

The seven things a run asks of the host of the comments : the pull requests of a commit, and for pull
requests and for commits alike the list of comments, a new comment and a new body for a comment.
-/

namespace CoverageNote

/-- A call to the host. -/
inductive Call where
  | listPullRequests (sha : Text)
  | listPullRequestComments (number : Nat)
  | createPullRequestComment (number : Nat) (body : Text)
  | updatePullRequestComment (id : Nat) (body : Text)
  | listCommitComments (sha : Text)
  | createCommitComment (sha : Text) (body : Text)
  | updateCommitComment (id : Nat) (body : Text)
deriving Repr, DecidableEq

namespace Call

/-- What the host gives back when the call succeeds. -/
def Answer : Call → Type
  | listPullRequests _ => List PullRequest
  | listPullRequestComments _ => List Comment
  | createPullRequestComment _ _ => Unit
  | updatePullRequestComment _ _ => Unit
  | listCommitComments _ => List Comment
  | createCommitComment _ _ => Unit
  | updateCommitComment _ _ => Unit

/-- The name of the kind of call. -/
def name : Call → Text
  | listPullRequests _ => "list_commit_pull_requests".toList
  | listPullRequestComments _ => "list_pull_request_comments".toList
  | createPullRequestComment _ _ => "create_pull_request_comment".toList
  | updatePullRequestComment _ _ => "update_pull_request_comment".toList
  | listCommitComments _ => "list_commit_comments".toList
  | createCommitComment _ _ => "create_commit_comment".toList
  | updateCommitComment _ _ => "update_commit_comment".toList

/-- The commit, the number or the id that the call is about. -/
def subject : Call → Text
  | listPullRequests sha => sha
  | listPullRequestComments number => Text.decimal number
  | createPullRequestComment number _ => Text.decimal number
  | updatePullRequestComment id _ => Text.decimal id
  | listCommitComments sha => sha
  | createCommitComment sha _ => sha
  | updateCommitComment id _ => Text.decimal id

/-- The body that the call writes. -/
def body? : Call → Option Text
  | listPullRequests _ => none
  | listPullRequestComments _ => none
  | createPullRequestComment _ body => some body
  | updatePullRequestComment _ body => some body
  | listCommitComments _ => none
  | createCommitComment _ body => some body
  | updateCommitComment _ body => some body

end Call

end CoverageNote
