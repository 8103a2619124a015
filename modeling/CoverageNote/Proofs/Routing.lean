import CoverageNote.Http.Client
import CoverageNote.Proofs.Loading

/-!
# Calls by their requests

A request says by its method and the text of its path which call it is, of which repository, and about which
commit, pull request or comment. `Http.Client.pathOf_injective` says that nothing of this is lost, the body apart,
which is not part of the path.

A commit may have any name, with slashes in it or one that looks like another path. It is told apart all the same
because it stands between two words that are fixed (`Http.route?_endpoint`). Owner and repository are told apart
because neither holds a slash.
-/

namespace CoverageNote

/-- The call with nothing to write. -/
def Call.unwritten : Call → Call
  | createPullRequestComment number _ => createPullRequestComment number []
  | updatePullRequestComment id _ => updatePullRequestComment id []
  | createCommitComment sha _ => createCommitComment sha []
  | updateCommitComment id _ => updateCommitComment id []
  | listPullRequests sha => listPullRequests sha
  | listPullRequestComments number => listPullRequestComments number
  | listCommitComments sha => listCommitComments sha

/-- The endpoint of a call does not depend on the text that it writes. -/
@[simp]
theorem Http.Client.endpoint_unwritten (call : Call) : endpoint call.unwritten = endpoint call := by
  cases call <;> rfl

/-- The method of a call does not depend on the text that it writes. -/
@[simp]
theorem Http.Client.methodOf_unwritten (call : Call) : methodOf call.unwritten = methodOf call := by
  cases call <;> rfl

/-- Neither part of a repository holds a slash. -/
theorem Settings.not_mem_of_readRepository {given owner repo : Text}
    (h : readRepository given = .ok (owner, repo)) : '/' ∉ owner ∧ '/' ∉ repo := by
  by_cases slug : IsSlug given
  · obtain ⟨owner', repo', read, -, before, after⟩ := readRepository_of_isSlug slug
    cases h.symm.trans read
    exact ⟨before, after⟩
  · rw [readRepository_of_not_isSlug slug] at h
    cases h

namespace Http

/-! ## Below a repository -/

/-- The commit, between the words around it. -/
def commitAt? (tail path : Text) : Option Text :=
  (path.dropHead? "commits/".toList).bind (·.dropTail? tail)

/-- The number of a pull request, between the words around it. -/
def pullRequestAt? (path : Text) : Option Nat :=
  ((path.dropHead? "issues/".toList).bind (·.dropTail? "/comments".toList)).map (Nat.ofDigitChars 10 · 0)

/-- The id behind a word. -/
def idAt? (head path : Text) : Option Nat :=
  (path.dropHead? head).map (Nat.ofDigitChars 10 · 0)

/-- The call that reads at a path below a repository. -/
def reading? (path : Text) : Option Call :=
  ((commitAt? "/pulls".toList path).map .listPullRequests).or
    (((commitAt? "/comments".toList path).map .listCommitComments).or
      ((pullRequestAt? path).map .listPullRequestComments))

/-- The call for something new at a path below a repository, with nothing to write. -/
def creation? (path : Text) : Option Call :=
  ((commitAt? "/comments".toList path).map (.createCommitComment · [])).or
    ((pullRequestAt? path).map (.createPullRequestComment · []))

/-- The call for a change at a path below a repository, with nothing to write. -/
def change? (path : Text) : Option Call :=
  ((idAt? "issues/comments/".toList path).map (.updatePullRequestComment · [])).or
    ((idAt? "comments/".toList path).map (.updateCommitComment · []))

/-- The call that a method and a path below a repository stand for, with nothing to write. -/
def route? (method : Method) (path : Text) : Option Call :=
  if method = .get then reading? path else if method = .post then creation? path else change? path

/-- The commit is read from between its two ends. -/
theorem commitAt?_append (tail sha : Text) : commitAt? tail ("commits/".toList ++ sha ++ tail) = some sha := by
  rw [commitAt?, List.append_assoc, Text.dropHead?_append, Option.bind_some, Text.dropTail?_append]

/-- No commit is read from the path of another endpoint below a commit. -/
theorem commitAt?_eq_none {tail other : Text} (h : ¬tail <:+ other) (h' : ¬other <:+ tail) (sha : Text) :
    commitAt? tail ("commits/".toList ++ sha ++ other) = none := by
  rw [commitAt?, List.append_assoc, Text.dropHead?_append, Option.bind_some, Text.dropTail?_eq_none h h']

theorem commitAt?_issues (tail rest : Text) : commitAt? tail ("issues/".toList ++ rest) = none := rfl

/-- The number of a pull request is read from the path of its comments. -/
theorem pullRequestAt?_append (number : Nat) :
    pullRequestAt? ("issues/".toList ++ Text.decimal number ++ "/comments".toList) = some number := by
  rw [pullRequestAt?, List.append_assoc, Text.dropHead?_append, Option.bind_some, Text.dropTail?_append,
    Option.map_some, Text.ofDigitChars_decimal]

/-- The number of a comment is read from the end of its path. -/
theorem idAt?_append (head : Text) (id : Nat) : idAt? head (head ++ Text.decimal id) = some id := by
  rw [idAt?, Text.dropHead?_append, Option.map_some, Text.ofDigitChars_decimal]

theorem idAt?_comments (rest : Text) : idAt? "issues/comments/".toList ("comments/".toList ++ rest) = none := rfl

/-- A path that is got is one of those that are read. -/
theorem route?_get (path : Text) : route? .get path = reading? path := if_pos rfl

theorem route?_post (path : Text) : route? .post path = creation? path := by
  rw [route?, if_neg (by decide), if_pos rfl]

theorem route?_patch (path : Text) : route? .patch path = change? path := by
  rw [route?, if_neg (by decide), if_neg (by decide)]

/-- A call is known again by its method and its path below the repository. -/
theorem route?_endpoint (call : Call) :
    route? (Client.methodOf call) (Client.endpoint call) = some call.unwritten := by
  cases call with
  | listPullRequests sha =>
    show route? .get ("commits/".toList ++ sha ++ "/pulls".toList) = _
    rw [route?_get, reading?, commitAt?_append]
    rfl
  | listCommitComments sha =>
    show route? .get ("commits/".toList ++ sha ++ "/comments".toList) = _
    rw [route?_get, reading?, commitAt?_eq_none (by decide) (by decide), commitAt?_append]
    rfl
  | listPullRequestComments number =>
    show route? .get ("issues/".toList ++ Text.decimal number ++ "/comments".toList) = _
    rw [route?_get, reading?, pullRequestAt?_append, List.append_assoc, commitAt?_issues, commitAt?_issues]
    rfl
  | createCommitComment sha body =>
    show route? .post ("commits/".toList ++ sha ++ "/comments".toList) = _
    rw [route?_post, creation?, commitAt?_append]
    rfl
  | createPullRequestComment number body =>
    show route? .post ("issues/".toList ++ Text.decimal number ++ "/comments".toList) = _
    rw [route?_post, creation?, pullRequestAt?_append, List.append_assoc, commitAt?_issues]
    rfl
  | updatePullRequestComment id body =>
    show route? .patch ("issues/comments/".toList ++ Text.decimal id) = _
    rw [route?_patch, change?, idAt?_append]
    rfl
  | updateCommitComment id body =>
    show route? .patch ("comments/".toList ++ Text.decimal id) = _
    rw [route?_patch, change?, idAt?_comments, idAt?_append]
    rfl

/-! ## Below the interface -/

namespace Client

/-- The path of a call is made of owner, repository and endpoint. -/
theorem pathOf_eq_append (c : Client) (call : Call) :
    c.pathOf call = "/repos/".toList ++ (c.owner ++ '/' :: (c.repo ++ '/' :: endpoint call)) := by
  unfold pathOf
  simp only [List.append_assoc, List.cons_append, List.nil_append]

/-- Two requests have one method and one path exactly if they are for one call, but for the body, to one
repository. -/
theorem pathOf_injective {c c' : Client} {given given' : Text}
    (repository : Settings.readRepository given = .ok (c.owner, c.repo))
    (repository' : Settings.readRepository given' = .ok (c'.owner, c'.repo)) (call call' : Call) :
    methodOf call = methodOf call' ∧ c.pathOf call = c'.pathOf call' ↔
      c.owner = c'.owner ∧ c.repo = c'.repo ∧ call.unwritten = call'.unwritten := by
  obtain ⟨owner, repo⟩ := Settings.not_mem_of_readRepository repository
  obtain ⟨owner', repo'⟩ := Settings.not_mem_of_readRepository repository'
  constructor
  · rintro ⟨method, path⟩
    rw [pathOf_eq_append, pathOf_eq_append] at path
    obtain ⟨sameOwner, rest⟩ := Text.append_cons_inj owner owner' (List.append_cancel_left path)
    obtain ⟨sameRepo, sameEndpoint⟩ := Text.append_cons_inj repo repo' rest
    have routed := route?_endpoint call
    rw [method, sameEndpoint, route?_endpoint call'] at routed
    exact ⟨sameOwner, sameRepo, (Option.some.inj routed).symm⟩
  · rintro ⟨sameOwner, sameRepo, same⟩
    have method : methodOf call = methodOf call' := by
      rw [← methodOf_unwritten, same, methodOf_unwritten]
    have sameEndpoint : endpoint call = endpoint call' := by
      rw [← endpoint_unwritten, same, endpoint_unwritten]
    exact ⟨method, by rw [pathOf_eq_append, pathOf_eq_append, sameOwner, sameRepo, sameEndpoint]⟩

/-- The names of a commit and of a repository may look like other paths, and what is written is not in the path. -/
theorem pathOf_injective_lookalike :
    let c : Client := ⟨"http://a".toList, "repos".toList, "commits".toList, "t".toList⟩
    let c' : Client := ⟨"http://b".toList, "repos".toList, "commits".toList, "u".toList⟩
    let sha := "issues/7/comments".toList
    Settings.readRepository "repos/commits".toList = .ok (c.owner, c.repo) ∧
      (methodOf (.createCommitComment sha "x".toList) = methodOf (.createCommitComment sha "y".toList) ∧
        c.pathOf (.createCommitComment sha "x".toList) = c'.pathOf (.createCommitComment sha "y".toList)) ∧
      ¬(methodOf (.listCommitComments (sha ++ "/pulls".toList)) = methodOf (.listPullRequests sha) ∧
        c.pathOf (.listCommitComments (sha ++ "/pulls".toList)) = c'.pathOf (.listPullRequests sha)) := by
  intro c c' sha
  have repository : Settings.readRepository "repos/commits".toList = .ok (c.owner, c.repo) := rfl
  have routes := @pathOf_injective c c' _ _ repository repository
  have unwritten (body : Text) : (Call.createCommitComment sha body).unwritten = .createCommitComment sha [] := rfl
  refine ⟨repository, (routes _ _).mpr ⟨rfl, rfl, ?_⟩, fun same => absurd ((routes _ _).mp same).2.2 (by decide)⟩
  rw [unwritten, unwritten]

end Client

end Http

end CoverageNote
