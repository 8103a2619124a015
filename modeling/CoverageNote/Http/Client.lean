import CoverageNote.Failure
import CoverageNote.Host.Call
import CoverageNote.Host.Listing
import CoverageNote.Http.Charset
import CoverageNote.Http.Network
import CoverageNote.Plan.Basic
import CoverageNote.Text.Base64

/-!
# The client of the host

The client turns each call to the host into one request, at a path below the repository, and reads what
it lists from the response. A call succeeds if the response is complete and its status says so; then a
body that is no JSON counts as no value.

A request cannot be made if its URL is none or the token is no value of a header; a URL that is not one
for the web with a host is refused as well, and so is one that is too long.
-/

namespace CoverageNote.Http

/-- A client : the URL of the host's interface, without slashes at its end, the repository and the
token. -/
structure Client where
  apiBase : Text
  owner : Text
  repo : Text
  token : Text
deriving Repr, DecidableEq

namespace Client

/-- How long an exchange may take, in seconds, before it counts as unanswered. -/
def timeoutSeconds : Nat := 30

/-- A client for these data. -/
def make (apiBase owner repo token : Text) : Client :=
  ⟨Settings.withoutSlashes apiBase, owner, repo, token⟩

/-- The client for the settings of a run. -/
def ofSettings (s : Settings) : Client :=
  make s.apiBase s.owner s.repo s.token

/-! ## Making a request -/

/-- A character that a header cannot carry. -/
def isBarred (c : Char) : Bool :=
  c.toNat < 0x20 && c != '\t' || c.toNat == 0x7F

/-- A character that a host's name must not contain where a connection is made. -/
def isUnfit (c : Char) : Bool :=
  c == '"' || c == '\x60' || c == '{' || c == '}'

/-- The most characters of a URL to which a connection is made. -/
def urlLimit : Nat := 65534

/-- A URL to which a connection can be made : one of the web with a fit host, and not too long. -/
def isReachable (url : Url) : Bool :=
  (url.scheme == "http".toList || url.scheme == "https".toList) && url.text.length ≤ urlLimit &&
    match url.host with
    | some (.name t) => !t.any isUnfit
    | some _ => true
    | none => false

/-- The user name and the password that a URL carries, unless they are empty or no text. -/
def credentials? (url : Url) : Option (Text × Option Text) :=
  match Utf8.decode? (Url.percentDecode url.user) with
  | none => none
  | some user =>
    let password :=
      if url.password.isEmpty then none else Utf8.decode? (Url.percentDecode url.password)
    if user.isEmpty && password.isNone then none else some (user, password)

/-- The header with a user name and a password. -/
def basicHeader (c : Text × Option Text) : Header :=
  let plain := c.1 ++ [':'] ++ c.2.getD []
  ("authorization".toList, "Basic ".toList ++ Base64.encode (Utf8.encode plain))

/-- The text of the URL at a path below the interface. -/
def address (c : Client) (path : Text) : Text :=
  c.apiBase ++ path

/-- The headers of a request of this client. -/
def headers (c : Client) (hasBody : Bool) : List Header :=
  [("authorization".toList, "Bearer ".toList ++ c.token),
    ("accept".toList, "application/vnd.github+json".toList),
    ("user-agent".toList, "coverage-comment".toList)] ++
    if hasBody then [("content-type".toList, "application/json".toList)] else []

/-- Make a request at a path below the interface. -/
def build (c : Client) (method : Method) (path : Text) (body : Option Json) :
    Except Problem Request :=
  match Url.parse (c.address path) with
  | .error _ => .error (.unbuildable none)
  | .ok url =>
    if !url.hasHost then .error (.unbuildable (some url))
    else
      let (basic, url) := match credentials? url with
        | some found => ([basicHeader found], url.withoutUser)
        | none => ([], url)
      if c.token.any isBarred then .error (.unbuildable none)
      else if !isReachable url then .error (.unbuildable (some url))
      else .ok ⟨method, url, basic ++ c.headers body.isSome, body.map Json.text⟩

/-! ## One exchange -/

/-- What starts every message about a request : the method and the URL as it was put together. -/
def failureHead (c : Client) (method : Method) (path : Text) : Text :=
  "Request failed: ".toList ++ method.name ++ [' '] ++ c.address path

/-- The failure of a request to which there is no response. -/
def problemFailure (c : Client) (method : Method) (path : Text) (problem : Problem) : Failure :=
  .plain (c.failureHead method path ++ ": ".toList ++ problem.message)

/-- The failure of a request that was not carried out. -/
def statusFailure (c : Client) (method : Method) (path : Text) (response : Response) : Failure :=
  .plain (c.failureHead method path ++ " (".toList ++ statusText response.status ++ "): ".toList ++
    response.text)

/-- The value of a response, if it is JSON. -/
def valueOf (response : Response) : Option Json :=
  if response.text.isAllBlank then none else Json.parse? response.text

/-- What a response to a request means. -/
def conclude (c : Client) (method : Method) (path : Text) (response : Response) :
    Except Failure (Option Json) :=
  if !response.complete then .error (c.problemFailure method path .brokenBody)
  else if !isSuccess response.status then .error (c.statusFailure method path response)
  else .ok (valueOf response)

variable {σ : Type}

/-- Send a request at a path below the interface. The result comes with the requests that were seen by
someone and the state of the network. -/
def request (c : Client) (network : Network σ) (method : Method) (path : Text) (body : Option Json)
    (s : σ) : Except Failure (Option Json) × List Request × σ :=
  match c.build method path body with
  | .error problem => (.error (c.problemFailure method path problem), [], s)
  | .ok request =>
    let e := network.exchange request s
    match e.result with
    | .error problem => (.error (c.problemFailure method path problem), e.seen, e.state)
    | .ok response => (c.conclude method path response, e.seen, e.state)

/-! ## Calls -/

/-- The method of a call. -/
def methodOf : Call → Method
  | .listPullRequests _ => .get
  | .listPullRequestComments _ => .get
  | .createPullRequestComment _ _ => .post
  | .updatePullRequestComment _ _ => .patch
  | .listCommitComments _ => .get
  | .createCommitComment _ _ => .post
  | .updateCommitComment _ _ => .patch

/-- The path of a call below the repository. -/
def endpoint : Call → Text
  | .listPullRequests sha => "commits/".toList ++ sha ++ "/pulls".toList
  | .listPullRequestComments number => "issues/".toList ++ Text.decimal number ++ "/comments".toList
  | .createPullRequestComment number _ =>
    "issues/".toList ++ Text.decimal number ++ "/comments".toList
  | .updatePullRequestComment id _ => "issues/comments/".toList ++ Text.decimal id
  | .listCommitComments sha => "commits/".toList ++ sha ++ "/comments".toList
  | .createCommitComment sha _ => "commits/".toList ++ sha ++ "/comments".toList
  | .updateCommitComment id _ => "comments/".toList ++ Text.decimal id

/-- The path of a call below the interface. -/
def pathOf (c : Client) (call : Call) : Text :=
  "/repos/".toList ++ c.owner ++ ['/'] ++ c.repo ++ ['/'] ++ endpoint call

/-- The value that a call sends : an object with the body. -/
def payload (body : Text) : Json :=
  .object [("body".toList, .string body)]

/-- What the value of a response means for a call. -/
def answerOf : (call : Call) → Option Json → call.Answer
  | .listPullRequests _, value => PullRequest.ofListing value
  | .listPullRequestComments _, value => Comment.ofListing value
  | .createPullRequestComment _ _, _ => ()
  | .updatePullRequestComment _ _, _ => ()
  | .listCommitComments _, value => Comment.ofListing value
  | .createCommitComment _ _, _ => ()
  | .updateCommitComment _ _, _ => ()

/-- Carry out a call. -/
def call (c : Client) (network : Network σ) (q : Call) (s : σ) :
    Except Failure q.Answer × List Request × σ :=
  let (result, seen, s) := c.request network (methodOf q) (c.pathOf q) (q.body?.map payload) s
  (result.map (answerOf q), seen, s)

end Client

/-- The world of a run over a network : settings and report are given, and the calls go to the host
that the settings name. -/
def world {σ : Type} (network : Network σ) (settings : Except Failure Settings)
    (report : Except Failure Text) : World σ Request where
  answer
    | .settings, s => (settings, [], s)
    | .report, s => (report, [], s)
    | .connect _, s => (.ok (), [], s)
    | .call q, s =>
      match settings with
      | .ok settings => (Client.ofSettings settings).call network q s
      | .error failure => (.error failure, [], s)

end CoverageNote.Http
