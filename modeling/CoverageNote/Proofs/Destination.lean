import CoverageNote.Proofs.Address
import CoverageNote.Proofs.Loading

/-!
# Where requests go

Settings that are loaded name an interface by a URL (`Settings.apiBase_of_load`), and the request for a call is
made for a text that is put together : behind the interface come the segments of a path
(`Client.segmentsOf`) as they are, nothing is encoded. Where the request goes is then a matter of how that
text is read (`Client.place_of_requestOf`, `Client.below_of_requestOf`). Only this request is handed to the network
(`Client.sent_call`); what an answer makes the network send after it is not said here.

`Client.requests_stay` puts these together for all settings that are loaded, and `Client.requests_escape` says that
none of its conditions can be left out.
-/

namespace CoverageNote

/-! ## Numbers -/

namespace Text

theorem toLower_of_isDigit {c : Char} (h : c.isDigit = true) : c.toLower = c := by
  simp only [Char.isDigit, Bool.and_eq_true, decide_eq_true_eq] at h
  refine dif_neg fun capital => ?_
  exact absurd (UInt32.le_trans capital.1 h.2) (by decide)

end Text

namespace Url

/-- A number is a segment. -/
theorem isSegment_decimal (n : Nat) : isSegment (Text.decimal n) = true := by
  have digit : ∀ c ∈ (visible (Text.decimal n)).map Char.toLower, c.isDigit = true := by
    intro c hc
    obtain ⟨d, hd, rfl⟩ := List.mem_map.mp hc
    have number := Text.isDigit_of_mem_decimal (List.mem_of_mem_filter hd)
    rwa [Text.toLower_of_isDigit number]
  have other {words : List Text} (h : ∀ w ∈ words, w.all Char.isDigit = false) :
      words.contains ((visible (Text.decimal n)).map Char.toLower) = false := by
    refine Bool.eq_false_iff.mpr fun mem => ?_
    have small := h _ (List.contains_iff_mem.mp mem)
    rw [List.all_eq_true.mpr digit] at small
    cases small
  have free : ((Text.decimal n).all fun c => !"/\\?#".toList.contains c) = true := by
    refine List.all_eq_true.mpr fun c hc => ?_
    have signs : ("/\\?#".toList.all fun d => !d.isDigit) = true := by decide
    refine (Bool.not_eq_true' _).mpr (Bool.eq_false_iff.mpr fun mem => ?_)
    have number := List.all_eq_true.mp signs c (List.contains_iff_mem.mp mem)
    rw [Text.isDigit_of_mem_decimal hc] at number
    cases number
  unfold isSegment isDown isDot isDotDot
  rw [free, other (by decide), other (by decide)]
  rfl

end Url

/-! ## Calls and settings -/

/-- The name of the commit that a call is about, if it is about one. -/
def Call.sha? : Call → Option Text
  | listPullRequests sha => some sha
  | listPullRequestComments _ => none
  | createPullRequestComment _ _ => none
  | updatePullRequestComment _ _ => none
  | listCommitComments sha => some sha
  | createCommitComment sha _ => some sha
  | updateCommitComment _ _ => none

namespace Settings

theorem withoutSlashes_withoutSlashes (t : Text) :
    withoutSlashes (withoutSlashes t) = withoutSlashes t :=
  Text.dropEndWhile_eq_self (Text.getLast?_dropEndWhile _ t)

/-- The host's interface in settings that were loaded is a URL. -/
theorem apiBase_of_load {env : Environment} {settings : Settings} (loaded : load env = .ok settings) :
    withoutSlashes settings.apiBase = settings.apiBase ∧
      ∃ base, Url.parse settings.apiBase = .ok base := by
  obtain ⟨all, mirrors⟩ := holds_of_load loaded
  obtain ⟨base, parsed⟩ := all .apiUrl
  rw [mirrors.apiBase]
  exact ⟨withoutSlashes_withoutSlashes _, base, parsed⟩

end Settings

namespace Http

namespace Client

/-! ## Paths -/

/-- The segments of the path of a call below the repository. -/
def segmentsOfCall : Call → List Text
  | .listPullRequests sha => ["commits".toList, sha, "pulls".toList]
  | .listPullRequestComments number => ["issues".toList, Text.decimal number, "comments".toList]
  | .createPullRequestComment number _ => ["issues".toList, Text.decimal number, "comments".toList]
  | .updatePullRequestComment id _ => ["issues".toList, "comments".toList, Text.decimal id]
  | .listCommitComments sha => ["commits".toList, sha, "comments".toList]
  | .createCommitComment sha _ => ["commits".toList, sha, "comments".toList]
  | .updateCommitComment id _ => ["comments".toList, Text.decimal id]

/-- The segments of the path of a call below the interface. -/
def segmentsOf (c : Client) (call : Call) : List Text :=
  "repos".toList :: c.owner :: c.repo :: segmentsOfCall call

theorem pathOf_eq (c : Client) (call : Call) :
    c.pathOf call = '/' :: Text.joined ['/'] (c.segmentsOf call) := by
  have repos : "/repos/".toList = ['/'] ++ "repos".toList ++ ['/'] := rfl
  have commits : "commits/".toList = "commits".toList ++ ['/'] := rfl
  have issues : "issues/".toList = "issues".toList ++ ['/'] := rfl
  have issueComments : "issues/comments/".toList =
    "issues".toList ++ ['/'] ++ "comments".toList ++ ['/'] := rfl
  have comments : "comments/".toList = "comments".toList ++ ['/'] := rfl
  have lastComments : "/comments".toList = ['/'] ++ "comments".toList := rfl
  have lastPulls : "/pulls".toList = ['/'] ++ "pulls".toList := rfl
  change c.pathOf call = ['/'] ++ Text.joined ['/'] (c.segmentsOf call)
  unfold pathOf segmentsOf endpoint segmentsOfCall
  cases call <;>
    simp only [Text.joined_cons_cons, Text.joined_singleton, repos, commits, issues, issueComments, comments,
      lastComments, lastPulls, List.append_assoc]

/-- A path ends in a word or a number. -/
theorem exists_endpoint_eq (call : Call) :
    ∃ front tail, endpoint call = front ++ tail ∧ tail ≠ [] ∧ tail.any Url.isEdge = false := by
  have number (front : Text) (n : Nat) : ∃ front' tail, front ++ Text.decimal n = front' ++ tail ∧
      tail ≠ [] ∧ tail.any Url.isEdge = false := by
    refine ⟨front, Text.decimal n, rfl, Nat.toDigits_ne_nil, List.any_eq_false.mpr fun d hd => ?_⟩
    rw [Url.isEdge_of_isDigit (Text.isDigit_of_mem_decimal hd)]
    exact Bool.false_ne_true
  cases call with
  | listPullRequests sha => exact ⟨_, "/pulls".toList, rfl, by decide, by decide⟩
  | listPullRequestComments number => exact ⟨_, "/comments".toList, rfl, by decide, by decide⟩
  | createPullRequestComment number body => exact ⟨_, "/comments".toList, rfl, by decide, by decide⟩
  | updatePullRequestComment id body => exact number _ id
  | listCommitComments sha => exact ⟨_, "/comments".toList, rfl, by decide, by decide⟩
  | createCommitComment sha body => exact ⟨_, "/comments".toList, rfl, by decide, by decide⟩
  | updateCommitComment id body => exact number _ id

theorem isEdge_getLast?_pathOf (c : Client) (call : Call) :
    ∀ d ∈ (c.pathOf call).getLast?, Url.isEdge d = false := by
  intro d hd
  obtain ⟨front, tail, whole, filled, clear⟩ := exists_endpoint_eq call
  unfold pathOf at hd
  rw [whole, ← List.append_assoc, List.getLast?_append, List.getLast?_eq_some_getLast filled] at hd
  rw [← Option.some.inj hd]
  exact Bool.eq_false_iff.mpr (List.any_eq_false.mp clear _ (List.getLast_mem filled))

/-- The segments of a path are those of the program and those that are given. -/
theorem isSegment_of_mem {c : Client} {call : Call} (owner : Url.isSegment c.owner = true)
    (repo : Url.isSegment c.repo = true) (sha : ∀ sha ∈ call.sha?, Url.isSegment sha = true) :
    ∀ s ∈ c.segmentsOf call, Url.isSegment s = true := by
  have repos : Url.isSegment "repos".toList = true := by decide
  have commits : Url.isSegment "commits".toList = true := by decide
  have pulls : Url.isSegment "pulls".toList = true := by decide
  have issues : Url.isSegment "issues".toList = true := by decide
  have comments : Url.isSegment "comments".toList = true := by decide
  unfold segmentsOf
  refine List.forall_mem_cons.mpr ⟨repos, List.forall_mem_cons.mpr ⟨owner,
    List.forall_mem_cons.mpr ⟨repo, ?_⟩⟩⟩
  unfold segmentsOfCall
  cases call <;>
    simp only [List.forall_mem_cons, List.not_mem_nil, false_implies, implies_true, and_true, commits, pulls,
      issues, comments, Url.isSegment_decimal, true_and] <;>
    exact sha _ rfl

/-! ## URLs -/

theorem stripped_eq (url : Url) :
    ∃ user password, stripped url = { url with user := user, password := password } := by
  unfold stripped
  split
  · exact ⟨[], [], rfl⟩
  · exact ⟨url.user, url.password, rfl⟩

section Interface

variable {c : Client} {call : Call} {base : Url} {request : Request}

theorem isEdge_getLast?_joined (c : Client) (call : Call) :
    ∀ d ∈ ('/' :: Text.joined ['/'] (c.segmentsOf call)).getLast?, Url.isEdge d = false := by
  rw [← pathOf_eq]
  exact isEdge_getLast?_pathOf c call

/-- The URL of a request is read from the interface with the segments of the call behind it. Only a user
and a password may be taken away. -/
theorem exists_parse_joined_of_requestOf (made : c.requestOf call = .ok request) :
    ∃ url user password,
      Url.parse (c.apiBase ++ '/' :: Text.joined ['/'] (c.segmentsOf call)) = .ok url ∧
        (Url.impliedPort? url.scheme).isSome = true ∧
        request.url = { url with user := user, password := password } := by
  obtain ⟨url, parsed, url_eq, web⟩ := exists_parse_of_requestOf made
  obtain ⟨user, password, same⟩ := stripped_eq url
  rw [address, pathOf_eq] at parsed
  exact ⟨url, user, password, parsed, web, url_eq.trans same⟩

variable (known : Url.parse c.apiBase = .ok base) (made : c.requestOf call = .ok request)
include known made

/-- A request goes to the host and the port of the interface. -/
theorem place_of_requestOf : request.url.scheme = base.scheme ∧ request.url.host = base.host ∧
    request.url.port = base.port := by
  obtain ⟨url, user, password, parsed, web, url_eq⟩ := exists_parse_joined_of_requestOf made
  have place := Url.place_of_parse_append known parsed web (isEdge_getLast?_joined c call)
  rw [url_eq]
  exact place

/-- If what is put together is one segment each, the request goes to the path below that of the interface. -/
theorem below_of_requestOf (fit : ∀ s ∈ c.segmentsOf call, Url.isSegment s = true)
    (query : base.query = none) (fragment : base.fragment = none)
    (ended : ∀ d ∈ (Url.visible c.apiBase).getLast?, Url.isEdge d = false) :
    request.url.Below base (c.segmentsOf call) := by
  obtain ⟨url, user, password, parsed, web, url_eq⟩ := exists_parse_joined_of_requestOf made
  have below := Url.below_of_parse_append fit known parsed web (isEdge_getLast?_joined c call)
    (List.cons_ne_nil _ _) query fragment ended
  rw [url_eq]
  exact ⟨below.query, below.fragment, below.path⟩

end Interface

end Client

/-! ## Sending -/

variable {σ : Type}

/-- For a call nothing is sent, if no request can be made, or its request is, and what is seen of the call is
what is seen of the exchange. -/
theorem Client.sent_call (c : Client) (network : Network σ) (call : Call) (s : σ) :
    (∃ problem, c.requestOf call = .error problem ∧ (c.call network call s).2 = ([], s)) ∨
      ∃ request, c.requestOf call = .ok request ∧
        (c.call network call s).2 =
          ((network.exchange request s).seen, (network.exchange request s).state) := by
  unfold Client.call Client.request Client.requestOf
  cases c.build (methodOf call) (c.pathOf call) (call.body?.map payload) with
  | error problem => exact .inl ⟨problem, rfl, rfl⟩
  | ok request =>
    refine .inr ⟨request, rfl, ?_⟩
    dsimp only
    cases (network.exchange request s).result <;> rfl

/-! ## Settings -/

/-- Settings of which nothing but single segments is put behind the URL of the interface for a call. -/
structure Fits (settings : Settings) (base : Url) (call : Call) : Prop where
  query : base.query = none
  fragment : base.fragment = none
  /-- The text of the interface does not end in a control or a space. -/
  ended : ∀ c ∈ (Url.visible settings.apiBase).getLast?, Url.isEdge c = false
  owner : Url.isSegment settings.owner = true
  repo : Url.isSegment settings.repo = true
  sha : ∀ sha ∈ call.sha?, Url.isSegment sha = true

namespace Client

theorem apiBase_ofSettings {env : Environment} {settings : Settings}
    (loaded : Settings.load env = .ok settings) : (ofSettings settings).apiBase = settings.apiBase :=
  (Settings.apiBase_of_load loaded).1

/-- With settings that were loaded every request for a call goes to the scheme, the host and the port of the
interface, and if nothing but single segments is put together it goes below the path of the interface. For a
call nothing is sent but its request. -/
theorem requests_stay {env : Environment} {settings : Settings}
    (loaded : Settings.load env = .ok settings) :
    ∃ base, Url.parse settings.apiBase = .ok base ∧ ∀ call : Call,
      let c := ofSettings settings
      (∀ request, c.requestOf call = .ok request →
        (request.url.scheme = base.scheme ∧ request.url.host = base.host ∧
          request.url.port = base.port) ∧
        (Fits settings base call → request.url.Below base (c.segmentsOf call))) ∧
      ∀ {σ : Type} (network : Network σ) (s : σ),
        (∃ problem, c.requestOf call = .error problem ∧ (c.call network call s).2 = ([], s)) ∨
          ∃ request, c.requestOf call = .ok request ∧
            (c.call network call s).2 =
              ((network.exchange request s).seen, (network.exchange request s).state) := by
  obtain ⟨-, base, parsed⟩ := Settings.apiBase_of_load loaded
  have same := apiBase_ofSettings loaded
  have known : Url.parse (ofSettings settings).apiBase = .ok base := by rw [same, parsed]
  refine ⟨base, parsed, fun call => ⟨fun request made => ⟨place_of_requestOf known made, fun fits => ?_⟩,
    fun network s => sent_call _ network call s⟩⟩
  exact below_of_requestOf known made (isSegment_of_mem fits.owner fits.repo fits.sha) fits.query
    fits.fragment (by rw [same]; exact fits.ended)

/-- An environment for a run on a repository at an interface. -/
def environmentFor (apiUrl repository sha : Text) : Environment :=
  [(Settings.tokenName, "t".toList), (Settings.apiUrlName, apiUrl),
    (Settings.repositoryName, repository), (Settings.shaName, sha)]

/-- The settings of an environment, the URL of the interface and the request for the pull requests of the
commit, if there are all of them. -/
def firstRequest? (env : Environment) : Option (Settings × Url × Request) := do
  let settings ← (Settings.load env).toOption
  let base ← (Url.parse settings.apiBase).toOption
  let request ← ((ofSettings settings).requestOf (.listPullRequests settings.sha)).toOption
  some (settings, base, request)

theorem firstRequest?_eq_some {env : Environment} {settings : Settings} {base : Url} {request : Request}
    (h : firstRequest? env = some (settings, base, request)) :
    Settings.load env = .ok settings ∧ Url.parse settings.apiBase = .ok base ∧
      (ofSettings settings).requestOf (.listPullRequests settings.sha) = .ok request := by
  have ok {ε α : Type} {x : Except ε α} {a : α} (h : x.toOption = some a) : x = .ok a := by
    cases x <;> cases h
    rfl
  obtain ⟨settings', loaded, h⟩ := Option.bind_eq_some_iff.mp h
  obtain ⟨base', known, h⟩ := Option.bind_eq_some_iff.mp h
  obtain ⟨request', made, h⟩ := Option.bind_eq_some_iff.mp h
  cases h
  exact ⟨ok loaded, ok known, ok made⟩

/-- A commit whose name holds a space is one segment all the same. -/
theorem requests_stay_spaced :
    let env := environmentFor "http://[::1]:8080/api".toList "o/r".toList "a b".toList
    ∃ settings base request, Settings.load env = .ok settings ∧ Url.parse settings.apiBase = .ok base ∧
      (ofSettings settings).requestOf (.listPullRequests settings.sha) = .ok request ∧
      Fits settings base (.listPullRequests settings.sha) ∧
      request.url.Below base ((ofSettings settings).segmentsOf (.listPullRequests settings.sha)) ∧
      request.url.text = "http://[::1]:8080/api/repos/o/r/commits/a%20b/pulls".toList := by
  intro env
  have evaluated : (firstRequest? env).any (fun r =>
      r.2.1.query = none ∧ r.2.1.fragment = none ∧
      (Url.visible r.1.apiBase).getLast?.any Url.isEdge = false ∧
      Url.isSegment r.1.owner = true ∧ Url.isSegment r.1.repo = true ∧ Url.isSegment r.1.sha = true ∧
      r.2.2.url.text = "http://[::1]:8080/api/repos/o/r/commits/a%20b/pulls".toList) = true := by
    decide +kernel
  obtain ⟨⟨settings, base, request⟩, found, facts⟩ := Option.any_eq_true _ _ |>.mp evaluated
  obtain ⟨loaded, known, made⟩ := firstRequest?_eq_some found
  obtain ⟨query, fragment, ended, owner, repo, sha, text⟩ := of_decide_eq_true facts
  have fits : Fits settings base (.listPullRequests settings.sha) :=
    ⟨query, fragment, fun c hc => Option.any_eq_false _ _ |>.mp ended c hc, owner, repo,
      by rintro _ ⟨⟩; exact sha⟩
  obtain ⟨base', known', stays⟩ := requests_stay loaded
  cases known.symm.trans known'
  exact ⟨settings, base, request, loaded, known, made, fits, ((stays _).1 request made).2 fits, text⟩

/-- With this environment the request for the pull requests of the commit is made, and it is not below the
interface and the repository but has this URL. -/
def Escapes (env : Environment) (place : Text) : Prop :=
  ∃ settings base request, Settings.load env = .ok settings ∧ Url.parse settings.apiBase = .ok base ∧
    (ofSettings settings).requestOf (.listPullRequests settings.sha) = .ok request ∧
    request.url.text = place ∧
    ¬ request.url.Below base ((ofSettings settings).segmentsOf (.listPullRequests settings.sha))

theorem escapes_of_firstRequest? {env : Environment} {place : Text}
    (h : ((firstRequest? env).any fun r => r.2.2.url.text = place ∧
      ¬ r.2.2.url.Below r.2.1 ((ofSettings r.1).segmentsOf (.listPullRequests r.1.sha))) = true) :
    Escapes env place := by
  obtain ⟨⟨settings, base, request⟩, found, facts⟩ := Option.any_eq_true _ _ |>.mp h
  obtain ⟨loaded, known, made⟩ := firstRequest?_eq_some found
  obtain ⟨text, outside⟩ := of_decide_eq_true facts
  exact ⟨settings, base, request, loaded, known, made, text, outside⟩

/-- Requests leave the repository, or the path of the interface, with signs of a path in the name of the commit,
with an owner that is a way up, and behind an interface with a query or with a control at its end. -/
theorem requests_escape :
    Escapes (environmentFor "http://[::1]".toList "o/r".toList "../../../../user#".toList)
        "http://[::1]/user#/pulls".toList ∧
      Escapes (environmentFor "http://[::1]".toList "../r".toList "c".toList)
        "http://[::1]/r/commits/c/pulls".toList ∧
      Escapes (environmentFor "http://[::1]?".toList "o/r".toList "c".toList)
        "http://[::1]/?/repos/o/r/commits/c/pulls".toList ∧
      Escapes (environmentFor ("http://[::1]/a".toList ++ ['\x01']) "o/r".toList "c".toList)
        "http://[::1]/a%01/repos/o/r/commits/c/pulls".toList := by
  refine ⟨?commit, ?owner, ?query, ?control⟩
  case commit => exact escapes_of_firstRequest? (by decide +kernel)
  case owner => exact escapes_of_firstRequest? (by decide +kernel)
  case query => exact escapes_of_firstRequest? (by decide +kernel)
  case control => exact escapes_of_firstRequest? (by decide +kernel)

end Client

end Http

end CoverageNote
