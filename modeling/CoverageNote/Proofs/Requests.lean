import CoverageNote.Http.Client
import CoverageNote.Proofs.Effect
import CoverageNote.Proofs.Url

/-!
# The requests for the calls of a run

The client makes one request for each call (`Client.requestOf`), for the URL that is read at the path of the
call (`Client.exists_parse_of_requestOf`). If a connection can be made for it (`Client.reaches`), nothing of
the request is in doubt but the header for the user (`Client.requestOf_of_reaches`).

The calls of a run are different requests (`Client.nodup_requestOf`) : the two that read go to URLs that end
in different words, and the others differ from these and from each other in the method. The peer does not
see all of a URL (`Request.onWire`), but without a `#` in its text it does.
-/

namespace CoverageNote

/-- The call of a run that makes up for a failed write by what it found : a comment of a commit that cannot be
changed is written anew. -/
def Target.remedy (target : Target) (body : Text) (found : Option Nat) : List Call :=
  match target, found with
  | pullRequest _, _ | commit _, none => []
  | commit sha, some _ => [.createCommitComment sha body]

namespace Http

/-! ## The request for a call -/

namespace Client

/-- The request for a call, unless it cannot be made. -/
def requestOf (c : Client) (call : Call) : Except Problem Request :=
  c.build (methodOf call) (c.pathOf call) (call.body?.map payload)

/-- The URL of the request for a call, if it can be read and stands for a plain connection. -/
def urlOf? (c : Client) (call : Call) : Option Url :=
  (Url.parse (c.address (c.pathOf call))).toOption.filter fun url => url.scheme = "http".toList

/-- A URL as a request has it : without the user name and the password, if they make a header. -/
def stripped (url : Url) : Url :=
  if (credentials? url).isSome then url.withoutUser else url

/-- Whether the request for a call goes out over a plain connection. -/
def reaches (c : Client) (call : Call) : Bool :=
  (c.urlOf? call).any fun url => isReachable (stripped url)

/-- A request for a URL that can be read, by what may be wrong with it. -/
theorem build_of_parse {c : Client} (method : Method) {path : Text} (body : Option Json) {url : Url}
    (parsed : Url.parse (c.address path) = .ok url) :
    c.build method path body =
      if !url.hasHost then .error (.unbuildable (some url))
      else if c.token.any isBarred then .error (.unbuildable none)
      else if !isReachable (stripped url) then .error (.unbuildable (some (stripped url)))
      else .ok ⟨method, stripped url,
        ((credentials? url).map basicHeader).toList ++ c.headers body.isSome, body.map Json.text⟩ := by
  unfold build stripped
  rw [parsed]
  dsimp only
  cases credentials? url with
  | none => rfl
  | some given => rfl

/-- A request that can be made is one for the URL at its path, and a connection can be made for it. -/
theorem build_eq_ok {c : Client} {method : Method} {path : Text} {body : Option Json}
    {request : Request} (h : c.build method path body = .ok request) :
    ∃ url, Url.parse (c.address path) = .ok url ∧ isReachable (stripped url) = true ∧
      request.method = method ∧ request.url = stripped url := by
  cases parsed : Url.parse (c.address path) with
  | error problem =>
    unfold build at h
    rw [parsed] at h
    cases h
  | ok url =>
    rw [build_of_parse method body parsed] at h
    split at h
    · cases h
    split at h
    · cases h
    split at h
    · cases h
    · next reachable =>
      cases h
      exact ⟨url, rfl, by simpa using reachable, rfl, rfl⟩

/-- A request keeps the method that it is built with. -/
theorem method_of_build {c : Client} {method : Method} {path : Text} {body : Option Json}
    {request : Request} (h : c.build method path body = .ok request) : request.method = method := by
  obtain ⟨url, -, -, method_eq, -⟩ := build_eq_ok h
  exact method_eq

/-- Connections are made for the schemes of the web only. -/
theorem impliedPort?_of_isReachable {url : Url} (h : isReachable url = true) :
    (Url.impliedPort? url.scheme).isSome = true := by
  simp only [isReachable, Bool.and_eq_true, Bool.or_eq_true, beq_iff_eq] at h
  rcases h.1.1 with plain | secure
  · rw [plain]
    rfl
  · rw [secure]
    rfl

/-- A call has a URL only if its address parses, and then one with the scheme `http`. -/
theorem urlOf?_eq_some {c : Client} {call : Call} {url : Url} (h : c.urlOf? call = some url) :
    Url.parse (c.address (c.pathOf call)) = .ok url ∧ url.scheme = "http".toList := by
  unfold urlOf? at h
  cases parsed : Url.parse (c.address (c.pathOf call)) with
  | error problem =>
    rw [parsed] at h
    cases h
  | ok found =>
    rw [parsed] at h
    obtain ⟨found_eq, plain⟩ := Option.filter_eq_some_iff.mp h
    cases found_eq
    exact ⟨rfl, of_decide_eq_true plain⟩

/-- A call that reaches the host is a request for the URL at its path. -/
theorem requestOf_of_reaches {c : Client} (legal : c.token.any isBarred = false) {call : Call}
    (h : c.reaches call = true) :
    ∃ url request, c.urlOf? call = some url ∧ c.requestOf call = .ok request ∧
      request.method = methodOf call ∧ request.url = stripped url := by
  obtain ⟨url, known, reachable⟩ := Option.any_eq_true _ _ |>.mp h
  obtain ⟨parsed, plain⟩ := urlOf?_eq_some known
  have hosted := Url.hasHost_of_parse parsed (by rw [plain]; rfl)
  have built := build_of_parse (methodOf call) (call.body?.map payload) parsed
  rw [if_neg (by simp [hosted]), if_neg (by simp [legal]), if_neg (by simp [reachable])] at built
  exact ⟨url, _, known, built, rfl, rfl⟩

/-! ## The URL of a request -/

/-- A URL has its scheme also without its user. -/
theorem scheme_stripped (url : Url) : (stripped url).scheme = url.scheme := by
  unfold stripped
  split <;> rfl

theorem fragment_stripped (url : Url) : (stripped url).fragment = url.fragment := by
  unfold stripped
  split <;> rfl

theorem resource_stripped (url : Url) : (stripped url).resource = url.resource := by
  unfold stripped
  split <;> rfl

/-- The URL of a request is what is read from the path of its call behind the interface. -/
theorem exists_parse_of_requestOf {c : Client} {call : Call} {request : Request}
    (h : c.requestOf call = .ok request) :
    ∃ url, Url.parse (c.address (c.pathOf call)) = .ok url ∧ request.url = stripped url ∧
      (Url.impliedPort? url.scheme).isSome = true := by
  obtain ⟨url, parsed, reachable, -, url_eq⟩ := build_eq_ok h
  have web := impliedPort?_of_isReachable reachable
  rw [scheme_stripped] at web
  exact ⟨url, parsed, url_eq, web⟩

/-- A URL ends in the word that the path of its call ends in. -/
theorem suffix_resource_of_requestOf {c : Client} {call : Call} {request : Request}
    (built : c.requestOf call = .ok request) {front tail : Text}
    (ends : endpoint call = front ++ '/' :: tail) (word : Url.isWord tail = true) :
    tail <:+ request.url.resource := by
  obtain ⟨url, parsed, url_eq, web⟩ := exists_parse_of_requestOf built
  have root : "/repos/".toList = ['/', 'r', 'e', 'p', 'o', 's', '/'] := rfl
  have address_eq : c.address (c.pathOf call) = c.apiBase ++ '/' :: 'r' ::
      (['e', 'p', 'o', 's', '/'] ++ c.owner ++ ['/'] ++ c.repo ++ ['/'] ++ front ++ '/' :: tail) := by
    show c.apiBase ++ ("/repos/".toList ++ c.owner ++ ['/'] ++ c.repo ++ ['/'] ++ endpoint call) = _
    rw [ends, root]
    simp only [List.append_assoc, List.cons_append, List.nil_append]
  rw [address_eq] at parsed
  have letter : Url.isPlain 'r' = true := by decide
  rw [url_eq, resource_stripped]
  exact Url.suffix_resource_of_parse word letter parsed web

/-- The pull requests of a commit are asked for below the commit. -/
theorem endpoint_listPullRequests (sha : Text) :
    endpoint (.listPullRequests sha) = ("commits/".toList ++ sha) ++ '/' :: "pulls".toList :=
  rfl

/-- The comments on a target are listed where the path ends in `comments`. -/
theorem endpoint_listing (target : Target) :
    ∃ front, endpoint target.listing = front ++ '/' :: "comments".toList := by
  cases target with
  | pullRequest number => exact ⟨"issues/".toList ++ Text.decimal number, rfl⟩
  | commit sha => exact ⟨"commits/".toList ++ sha, rfl⟩

/-! ## Requests that differ -/

/-- Comments are listed by reading. -/
theorem methodOf_listing (target : Target) : methodOf target.listing = .get := by
  cases target <;> rfl

/-- A comment is not written by reading. -/
theorem methodOf_writing_ne (body : Text) (target : Target) (found : Option Nat) :
    methodOf (target.writing body found) ≠ .get := by
  cases found with
  | none => cases target <;> exact (by decide : Method.post ≠ .get)
  | some comment => cases target <;> exact (by decide : Method.patch ≠ .get)

/-- What makes up for a write is another kind of write. -/
theorem methodOf_remedy_ne {body : Text} {target : Target} {found : Option Nat} {call : Call}
    (h : call ∈ target.remedy body found) :
    methodOf call ≠ methodOf (target.writing body found) ∧ methodOf call ≠ .get := by
  cases target with
  | pullRequest number => cases h
  | commit sha =>
    cases found with
    | none => cases h
    | some comment =>
      cases List.mem_singleton.mp h
      exact ⟨show Method.post ≠ .patch by decide, show Method.post ≠ .get by decide⟩

/-- A failed write has one remedy at the most. -/
theorem length_remedy_le (body : Text) (target : Target) (found : Option Nat) :
    (target.remedy body found).length ≤ 1 := by
  cases target <;> cases found <;> simp [Target.remedy]

section Reached

variable {c : Client} (legal : c.token.any isBarred = false)
include legal

theorem requestOf_ne_of_method {call call' : Call} (reached : c.reaches call = true)
    (h : methodOf call ≠ methodOf call') : c.requestOf call ≠ c.requestOf call' := by
  obtain ⟨url, request, -, built, method_eq, -⟩ := requestOf_of_reaches legal reached
  intro same
  rw [built] at same
  exact h (method_eq.symm.trans (method_of_build same.symm))

/-- The two listings of a run are requests for different URLs. -/
theorem requestOf_listing_ne {sha : Text} {target : Target}
    (pulls : c.reaches (.listPullRequests sha) = true) :
    c.requestOf (.listPullRequests sha) ≠ c.requestOf target.listing := by
  obtain ⟨-, request, -, built, -⟩ := requestOf_of_reaches legal pulls
  intro same
  have first : "pulls".toList <:+ request.url.resource :=
    suffix_resource_of_requestOf built (endpoint_listPullRequests sha) (by decide)
  obtain ⟨front, ends⟩ := endpoint_listing target
  have second : "comments".toList <:+ request.url.resource :=
    suffix_resource_of_requestOf (same ▸ built) ends (by decide)
  rcases List.suffix_or_suffix_of_suffix first second with h | h
  · exact absurd h (by decide)
  · exact absurd h (by decide)

/-- A call whose method no other has is not repeated by any of the others. -/
theorem requestOf_not_mem {call : Call} {others : List Call} (reached : c.reaches call = true)
    (h : ∀ other ∈ others, methodOf call ≠ methodOf other) :
    c.requestOf call ∉ others.map c.requestOf := by
  intro mem
  obtain ⟨other, hother, same⟩ := List.mem_map.mp mem
  exact requestOf_ne_of_method legal reached (h other hother) same.symm

/-- No two calls of a run are the same request. -/
theorem nodup_requestOf {sha body : Text} {target : Target} {found : Option Nat}
    {again : List Call} (sub : again.Sublist (target.remedy body found))
    (reached : ∀ call ∈ .listPullRequests sha :: target.listing :: target.writing body found :: again,
      c.reaches call = true) :
    ((.listPullRequests sha :: target.listing :: target.writing body found :: again).map
      c.requestOf).Nodup := by
  have pulls := reached (.listPullRequests sha) (by simp)
  have comments := reached target.listing (by simp)
  have write := reached (target.writing body found) (by simp)
  have reads : methodOf target.listing = .get := methodOf_listing target
  have writes : methodOf (target.writing body found) ≠ .get := methodOf_writing_ne body target found
  have posts : ∀ other ∈ again, methodOf other ≠ methodOf (target.writing body found) ∧
      methodOf other ≠ .get := fun other h => methodOf_remedy_ne (sub.subset h)
  have single : (again.map c.requestOf).Nodup := by
    have short := Nat.le_trans sub.length_le (length_remedy_le body target found)
    match again, short with
    | [], _ => exact List.nodup_nil
    | [only], _ => exact List.nodup_singleton _
  have first : c.requestOf (.listPullRequests sha) ∉
      (target.writing body found :: again).map c.requestOf := by
    refine requestOf_not_mem legal pulls (List.forall_mem_cons.mpr ⟨writes.symm, ?_⟩)
    exact fun other h => (posts other h).2.symm
  have second : c.requestOf target.listing ∉
      (target.writing body found :: again).map c.requestOf := by
    refine requestOf_not_mem legal comments ?_
    rw [reads]
    exact List.forall_mem_cons.mpr ⟨writes.symm, fun other h => (posts other h).2.symm⟩
  have third : c.requestOf (target.writing body found) ∉ again.map c.requestOf :=
    requestOf_not_mem legal write fun other h => (posts other h).1.symm
  have different : c.requestOf (.listPullRequests sha) ≠ c.requestOf target.listing :=
    requestOf_listing_ne legal pulls
  exact List.nodup_cons.mpr ⟨List.not_mem_cons_of_ne_of_not_mem different first,
    List.nodup_cons.mpr ⟨second, List.nodup_cons.mpr ⟨third, single⟩⟩⟩

end Reached

end Client

/-- A request as the peer sees it : the fragment of a URL is not sent. -/
def Request.onWire (r : Request) : Request :=
  { r with url := { r.url with fragment := none } }

/-- Without a `#` in its address the peer sees a request as it is built. -/
theorem Client.onWire_of_requestOf {c : Client} {call : Call} {request : Request}
    (built : c.requestOf call = .ok request) (whole : '#' ∉ c.address (c.pathOf call)) :
    request.onWire = request := by
  obtain ⟨url, parsed, url_eq, web⟩ := exists_parse_of_requestOf built
  have absent : request.url.fragment = none := by
    rw [url_eq, fragment_stripped]
    exact Url.fragment_of_parse parsed web whole
  unfold Request.onWire
  rw [← absent]

end Http

end CoverageNote
