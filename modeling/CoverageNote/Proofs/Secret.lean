import CoverageNote.Proofs.Comparison
import CoverageNote.Proofs.Peer
import CoverageNote.Proofs.Requests
import CoverageNote.Settings.Shown

/-!
# The token stays secret

Two environments that differ in the token alone lead to runs that cannot be told apart, except by the header
that carries it. The comparison is made in three steps.

* Settings are loaded alike (`Settings.load_withToken`), and are shown alike because the token is not shown.
* A run asks the same in two worlds whose answers are alike (`Plan.Asks.alike`), and the one question that
  holds the token, the one for a connection, is answered without regard to it. So runs in such worlds
  (`Posting.Twin`) are alike up to what is hidden of the signals (`Posting.alike_post`).
* A client with another token makes the same requests up to that header (`Http.Client.build_withToken`), and on
  a network that does not look at it the same comes of them (`Http.Network.Blind`). The peer does not look at
  it; that the library which sends the requests does not either is what is asked of it (`Http.Library.Blind`).

`Posting.post_hides_token` puts these together.
-/

namespace CoverageNote

variable {α β σ ε δ : Type}

/-! ## Runs alike -/

/-- What a moment is in the log, and what was sent, as far as it is seen. -/
def Moment.outline (seen : ε → δ) (m : Moment ε) : Option Event × List δ :=
  (m.event?, m.sent.map seen)

/-- Two runs that end alike and have the same outlines. -/
structure Run.Alike (seen : ε → δ) (r r' : Run α σ ε) : Prop where
  result : r.result = r'.result
  state : r.state = r'.state
  outline : r.trace.map (Moment.outline seen) = r'.trace.map (Moment.outline seen)

namespace Run.Alike

variable {seen : ε → δ} {r r' : Run α σ ε}

theorem refl (r : Run α σ ε) : Run.Alike seen r r :=
  ⟨rfl, rfl, rfl⟩

theorem log_eq (h : Run.Alike seen r r') : log r.trace = log r'.trace := by
  have read (trace : List (Moment ε)) :
      log trace = (trace.map (Moment.outline seen)).filterMap Prod.fst := by
    rw [List.filterMap_map]
    rfl
  rw [read, read, h.outline]

end Run.Alike

/-- Two answers with their signals and the states behind them are alike, up to what is seen of the
signals. -/
structure AnsweredAlike (seen : ε → δ) (x y : α × List ε × σ) : Prop where
  answer : x.1 = y.1
  sent : x.2.1.map seen = y.2.1.map seen
  state : x.2.2 = y.2.2

/-- Two worlds answer a question alike, up to what is seen of the signals. -/
def World.Alike (seen : ε → δ) (world world' : World σ ε) (q : Question) : Prop :=
  ∀ s, AnsweredAlike seen (world.answer q s) (world'.answer q s)

namespace Plan

variable {seen : ε → δ} {world world' : World σ ε}

/-- A plan that goes on after another one is carried out alike if both are. -/
theorem alike_bind {p p' : Plan α} {f f' : α → Plan β} {s : σ}
    (first : (p.run world s).Alike seen (p'.run world' s))
    (after : ∀ a t, ((f a).run world t).Alike seen ((f' a).run world' t)) :
    ((p >>= f).run world s).Alike seen ((p' >>= f').run world' s) := by
  have rest := after (p'.run world' s).result (p'.run world' s).state
  simp only [run_bind, first.result, first.state]
  exact ⟨rest.result, rest.state, by simp [first.outline, rest.outline]⟩

/-- A question that is answered alike runs alike. -/
theorem alike_query {q : Question} (alike : World.Alike seen world world' q) (s : σ) :
    ((query q).run world s).Alike seen ((query q).run world' s) where
  result := (alike s).answer
  state := (alike s).state
  outline := by
    have event : ∀ (answer answer' : Except Failure q.Answer) (sent sent' : List ε),
        (Moment.asked q answer sent).event? = (Moment.asked q answer' sent').event? := by
      cases q <;> exact fun _ _ _ _ => rfl
    simp [Moment.outline, Moment.sent, (alike s).sent, event _ (world'.answer q s).1 _
      (world'.answer q s).2.1]

/-- A plan is carried out alike in worlds that answer alike what it asks. -/
theorem Asks.alike {allowed : Question → Prop} {p : Plan α} (h : p.Asks allowed)
    (alike : ∀ q, allowed q → World.Alike seen world world' q) (s : σ) :
    (p.run world s).Alike seen (p.run world' s) := by
  induction p generalizing s with
  | done a => exact .refl _
  | say n rest ih =>
    have rest := ih h s
    exact ⟨rest.result, rest.state, congrArg (_ :: ·) rest.outline⟩
  | ask q next ih =>
    exact alike_bind (alike_query (alike q h.1) s) fun answer t => ih answer (h.2 answer) t

end Plan

/-! ## Settings with another token -/

namespace Settings

/-- The settings with another token. -/
def withToken (s : Settings) (token : Text) : Settings :=
  { s with token := token }

theorem shown_withToken (s : Settings) (token : Text) : (s.withToken token).shown = s.shown := rfl

theorem shownInLines_withToken (s : Settings) (token : Text) :
    (s.withToken token).shownInLines = s.shownInLines := rfl

/-- Two environments agree on all variables but the token, and in both there is one. -/
structure AgreeButToken (env env' : Environment) (token token' : Text) : Prop where
  others : ∀ name, name ≠ tokenName → env.value? name = env'.value? name
  given : env.get? tokenName = some token
  given' : env'.get? tokenName = some token'

section Agree

variable {env env' : Environment} {token token' : Text} (agree : AgreeButToken env env' token token')
include agree

/-- Settings are loaded alike from them. -/
theorem load_withToken : load env' = (load env).map fun s => s.withToken token' := by
  have same {name : Text} (other : name ≠ tokenName) : env'.get? name = env.get? name := by
    rw [Environment.get?, Environment.get?, agree.others name other]
  have url := @same apiUrlName (by decide)
  have repository := @same repositoryName (by decide)
  have sha := @same shaName (by decide)
  have total := @same totalName (by decide)
  have details := @same detailsName (by decide)
  have minimum := @same minCoverageName (by decide)
  simp only [load, require, agree.given, agree.given', url, repository, sha, total, details, minimum]
  cases readApiBase ((env.get? apiUrlName).getD defaultApiBase) with
  | error problem => rfl
  | ok base =>
    cases env.get? repositoryName with
    | none => rfl
    | some repository =>
      cases env.get? shaName with
      | none => rfl
      | some sha =>
        cases loaded : readRepository repository with
        | error problem => simp [loaded, bind, Except.bind, Except.map]
        | ok names => simp [loaded, bind, Except.bind, Except.map, pure, Except.pure, withToken]

/-- With another token the same settings are loaded but for it, or the same failure comes up. -/
theorem ofEnvironment_withToken :
    ofEnvironment env' = (ofEnvironment env).map fun s => s.withToken token' := by
  unfold ofEnvironment
  rw [load_withToken agree]
  cases load env <;> rfl

end Agree

/-- The token of the settings is the one that is given. -/
theorem token_of_ofEnvironment {env : Environment} {token : Text} {settings : Settings}
    (given : env.get? tokenName = some token) (h : ofEnvironment env = .ok settings) :
    settings.token = token := by
  have same := ofEnvironment_withToken ⟨fun _ _ => rfl, given, given⟩
  rw [h] at same
  exact congrArg Settings.token (Except.ok.inj same)

end Settings

/-! ## Runs with another token -/

namespace Posting

/-- Two worlds that answer alike, the second one with the settings of the first but for the token. -/
structure Twin (seen : ε → δ) (world world' : World σ ε) (loaded : Except Failure Settings)
    (token' : Text) : Prop where
  settings : ∀ s, world.answer .settings s = (loaded, [], s)
  settings' : ∀ s, world'.answer .settings s = (loaded.map (·.withToken token'), [], s)
  connect : ∀ given s, Run.Alike seen ((Plan.query (.connect given)).run world s)
    ((Plan.query (.connect (given.withToken token'))).run world' s)
  report : World.Alike seen world world' .report
  call : ∀ c, World.Alike seen world world' (.call c)

/-- For the details nothing but the report is asked for. -/
theorem asks_details (supplied : Option Text) : (details supplied).Asks (· = .report) := by
  cases given : supplied.filter fun t => !t.isEmpty with
  | some text =>
    rw [details_of_some given]
    trivial
  | none =>
    rw [details_of_none given]
    refine asks_lookup ?_ _ _ _
    rfl

section Twin

variable {seen : ε → δ} {world world' : World σ ε} {loaded : Except Failure Settings}
  {token' : Text} (twin : Twin seen world world' loaded token')
include twin

theorem alike_place (sha body : Text) (s : σ) :
    ((place sha body).run world s).Alike seen ((place sha body).run world' s) := by
  refine (asks_place sha body).alike (fun q asked => ?_) s
  cases q with
  | call c => exact twin.call c
  | settings | report | connect _ => cases asked

theorem alike_publish (settings : Settings) (body : Text) (s : σ) :
    ((publish settings body).run world s).Alike seen
      ((publish (settings.withToken token') body).run world' s) := by
  rw [publish_eq, publish_eq]
  refine Plan.alike_bind (twin.connect settings s) fun connected t => ?_
  cases connected with
  | error failure => exact .refl _
  | ok _ => exact alike_place twin settings.sha body t

/-- The run after the settings does not depend on the token. -/
theorem alike_proceed (settings : Settings) (dryRun : Bool) (s : σ) :
    ((proceed settings dryRun).run world s).Alike seen
      ((proceed (settings.withToken token') dryRun).run world' s) := by
  rw [proceed_eq, proceed_eq]
  refine Plan.alike_bind (.refl _) fun _ t => Plan.alike_bind ?_ fun details u => ?_
  · exact (asks_details settings.coverageDetails).alike (fun q asked => asked ▸ twin.report) t
  · cases dryRun with
    | true => exact .refl _
    | false => exact Plan.alike_bind (alike_publish twin settings _ u) fun _ _ => .refl _

/-- A run is alike in two such worlds. -/
theorem alike_post (dryRun : Bool) (s : σ) :
    ((post dryRun).run world s).Alike seen ((post dryRun).run world' s) := by
  simp only [post_eq, Plan.run_bind, Plan.run_query, twin.settings, twin.settings']
  cases loaded with
  | error failure => exact ⟨rfl, rfl, rfl⟩
  | ok settings =>
    have rest := alike_proceed twin settings dryRun s
    exact ⟨rest.result, rest.state, congrArg (_ :: ·) rest.outline⟩

end Twin

end Posting

/-! ## Requests with another token -/

namespace Http

/-- A header as it is seen without the token that it may carry. -/
def Header.masked (h : Header) : Header :=
  if h.1 = "authorization".toList ∧ "Bearer ".toList <+: h.2 then (h.1, "Bearer ".toList) else h

/-- A request as it is seen without the token that it may carry. -/
def Request.masked (r : Request) : Request :=
  { r with headers := r.headers.map Header.masked }

/-- Under its mask the header of the token is the same for every token. -/
theorem Header.masked_bearer (token : Text) :
    Header.masked ("authorization".toList, "Bearer ".toList ++ token) =
      ("authorization".toList, "Bearer ".toList) :=
  if_pos ⟨rfl, List.prefix_append _ _⟩

/-- Two exchanges that cannot be told apart without the token. -/
structure Exchange.Alike (e e' : Exchange σ) : Prop where
  result : e.result = e'.result
  state : e.state = e'.state
  seen : e.seen.map Request.masked = e'.seen.map Request.masked

/-- What comes of a request on the wire is decided without the token. -/
def Wire.Blind (wire : Wire σ) : Prop :=
  ∀ r r' s, r.masked = r'.masked → wire.contact r s = wire.contact r' s

/-- What comes of a request on the network is decided without the token. -/
def Network.Blind (network : Network σ) : Prop :=
  ∀ r r' s, r.masked = r'.masked → (network.exchange r s).Alike (network.exchange r' s)

/-- The library does not look at the token : on a wire that does not either, two requests that are the same
without it come to the same. -/
def Library.Blind (library : Library) : Prop :=
  ∀ {σ : Type} (wire : Wire σ), wire.Blind → Network.Blind ⟨library.send wire⟩

theorem url_eq_of_masked {r r' : Request} (same : r.masked = r'.masked) : r.url = r'.url :=
  (congrArg Request.url same : r.masked.url = r'.masked.url)

/-- A peer that answers from a script looks at no header. -/
theorem Wire.blind_scripted : scripted.Blind := by
  intro r r' s same
  unfold scripted
  dsimp only
  rw [url_eq_of_masked same]

/-- A library that only sends looks at no header. -/
theorem Library.blind_plain : plain.Blind := by
  intro σ wire blind r r' s same
  have contact := blind r r' s same
  show ((wire.contact r s).1.exchange r (wire.contact r s).2).Alike
    ((wire.contact r' s).1.exchange r' (wire.contact r' s).2)
  rw [contact]
  unfold Contact.exchange
  cases (wire.contact r' s).1 with
  | unreachable => exact ⟨by rw [url_eq_of_masked same], rfl, rfl⟩
  | unanswered => exact ⟨by rw [url_eq_of_masked same], rfl, congrArg ([·]) same⟩
  | answered response => exact ⟨rfl, rfl, congrArg ([·]) same⟩

/-- Over a blind library the scripted network is blind. -/
theorem Network.blind_scripted {library : Library} (blind : library.Blind) : (scripted library).Blind :=
  blind .scripted Wire.blind_scripted

namespace Client

/-- The client with another token. -/
def withToken (c : Client) (token : Text) : Client :=
  { c with token := token }

/-- Under the mask the headers do not depend on the token. -/
theorem headers_withToken (c : Client) (token' : Text) (hasBody : Bool) :
    ((c.withToken token').headers hasBody).map Header.masked =
      (c.headers hasBody).map Header.masked :=
  congrArg (· :: _) ((Header.masked_bearer token').trans (Header.masked_bearer c.token).symm)

variable {c : Client} {token' : Text} (legal : c.token.any isBarred = false)
  (legal' : token'.any isBarred = false)
include legal legal'

/-- Under the mask the request does not depend on the token. -/
theorem build_withToken (method : Method) (path : Text) (body : Option Json) :
    ((c.withToken token').build method path body).map Request.masked =
      (c.build method path body).map Request.masked := by
  cases parsed : Url.parse (c.address path) with
  | error problem =>
    have parsed' : Url.parse ((c.withToken token').address path) = .error problem := parsed
    unfold build
    rw [parsed, parsed']
  | ok url =>
    have parsed' : Url.parse ((c.withToken token').address path) = .ok url := parsed
    have headers (basic : List Header) : (basic ++ (c.withToken token').headers body.isSome).map
        Header.masked = (basic ++ c.headers body.isSome).map Header.masked := by
      rw [List.map_append, List.map_append, headers_withToken]
    rw [build_of_parse method body parsed, build_of_parse method body parsed', legal,
      show (c.withToken token').token.any isBarred = false from legal']
    by_cases hosted : (!url.hasHost) = true
    · simp only [if_pos hosted]
    by_cases reachable : (!isReachable (stripped url)) = true
    · simp only [if_neg hosted, if_pos reachable]
    · simp only [if_neg hosted, if_neg reachable]
      exact congrArg (fun headers => Except.ok (Request.mk method (stripped url) headers (body.map Json.text)))
        (headers _)

section Network

variable {network : Network σ} (blind : network.Blind)
include blind

/-- What comes of a request is the same with another token, and the requests are the same up to it. -/
theorem request_withToken (method : Method) (path : Text) (body : Option Json) (s : σ) :
    AnsweredAlike Request.masked (c.request network method path body s)
      ((c.withToken token').request network method path body s) := by
  have built := build_withToken legal legal' method path body
  unfold Client.request
  cases made : c.build method path body with
  | error problem =>
    cases made' : (c.withToken token').build method path body with
    | error problem' =>
      rw [made, made'] at built
      cases built
      exact ⟨rfl, rfl, rfl⟩
    | ok r' =>
      rw [made, made'] at built
      cases built
  | ok r =>
    cases made' : (c.withToken token').build method path body with
    | error problem' =>
      rw [made, made'] at built
      cases built
    | ok r' =>
      rw [made, made'] at built
      obtain ⟨result, state, seen⟩ := blind r r' s (Except.ok.inj built).symm
      dsimp only
      rw [← result]
      cases (network.exchange r s).result with
      | error problem => exact ⟨rfl, seen, state⟩
      | ok response => exact ⟨rfl, seen, state⟩

/-- Under the mask a call is answered alike for every token. -/
theorem call_withToken (call : Call) (s : σ) :
    AnsweredAlike Request.masked (c.call network call s) ((c.withToken token').call network call s) := by
  have alike := request_withToken legal legal' blind (methodOf call) (c.pathOf call)
    (call.body?.map payload) s
  exact ⟨congrArg (Except.map (answerOf call)) alike.answer, alike.sent, alike.state⟩

end Network

end Client

end Http

/-! ## The whole run -/

namespace Http

/-- What is seen of a run over a network : what is said, that the report is asked for, and the requests. -/
inductive Sight where
  | said (n : Note)
  | report
  | request (r : Request)
deriving DecidableEq

namespace Sight

/-- What is seen of an event. The calls are seen as their requests only. -/
def ofEvent? : Event → Option Sight
  | .said n => some (.said n)
  | .report => some .report
  | .connect | .call _ => none

/-- What is seen, without the token. -/
def masked : Sight → Sight
  | said n => .said n
  | report => .report
  | request r => .request r.masked

/-- What is seen of an outline. -/
def ofOutline (o : Option Event × List Request) : List Sight :=
  (o.1.bind ofEvent?).toList ++ o.2.map request

end Sight

/-- What is seen of a run over a network, in order. -/
def sights (trace : List (Moment Request)) : List Sight :=
  trace.flatMap fun m => Sight.ofOutline (m.outline id)

/-- What is seen under the mask is read off the outline of the run. -/
theorem masked_sights (trace : List (Moment Request)) :
    (sights trace).map Sight.masked =
      (trace.map (Moment.outline Request.masked)).flatMap Sight.ofOutline := by
  have event (e : Option Event) : (e.bind Sight.ofEvent?).toList.map Sight.masked =
      (e.bind Sight.ofEvent?).toList := by
    rcases e with _ | e
    · rfl
    · cases e <;> rfl
  simp only [sights, List.map_flatMap, List.flatMap_map, Sight.ofOutline, Moment.outline,
    List.map_append, event, List.map_map, Function.comp_def, id_eq, Sight.masked]

/-- The worlds of two runs whose settings differ in the token alone. -/
theorem twin_world {network : Network σ} (blind : network.Blind) {loaded : Except Failure Settings}
    {token' : Text}
    (legal : ∀ settings, loaded = .ok settings → settings.token.any Client.isBarred = false)
    (legal' : token'.any Client.isBarred = false) (report : Except Failure Text) :
    Posting.Twin Request.masked (world network loaded report)
      (world network (loaded.map (·.withToken token')) report) loaded token' where
  settings _ := rfl
  settings' _ := rfl
  connect _ _ := ⟨rfl, rfl, rfl⟩
  report _ := ⟨rfl, rfl, rfl⟩
  call c s := by
    cases loaded with
    | error failure => exact ⟨rfl, rfl, rfl⟩
    | ok settings => exact Client.call_withToken (legal settings rfl) legal' blind c s

end Http

namespace Posting

/-- The worlds of a script and of the same with another token are twins. -/
theorem twin_script (loaded : Except Failure Settings) (token' : Text) (report : Except Failure Text)
    (host : HostScript) :
    Twin id (Script.world ⟨loaded, report, host⟩)
      (Script.world ⟨loaded.map (·.withToken token'), report, host⟩) loaded token' where
  settings _ := rfl
  settings' _ := rfl
  connect _ _ := ⟨rfl, rfl, rfl⟩
  report _ := ⟨rfl, rfl, rfl⟩
  call _ _ := ⟨rfl, rfl, rfl⟩

open Settings (AgreeButToken)

/-- Environments that differ in the token alone make no difference that can be seen, but for the header that
carries it. The settings cannot be loaded from either, for the same reason, or they are shown alike. A run by a
script has the same result and the same log. A run over a network, with tokens that a header can carry and a
library that does not look at them, has the same result, leaves the same answers over, says the same and sends
the same requests up to that header. -/
theorem post_hides_token {env env' : Environment} {token token' : Text}
    (agree : AgreeButToken env env' token token') :
    ((∃ e, Settings.load env = .error e ∧ Settings.load env' = .error e) ∨
      ∃ settings settings', Settings.load env = .ok settings ∧ Settings.load env' = .ok settings' ∧
        settings'.shown = settings.shown ∧ settings'.shownInLines = settings.shownInLines) ∧
    (∀ report host dryRun,
      let r := (post dryRun).run (Script.world ⟨Settings.ofEnvironment env, report, host⟩) ()
      let r' := (post dryRun).run (Script.world ⟨Settings.ofEnvironment env', report, host⟩) ()
      r'.result = r.result ∧ log r'.trace = log r.trace) ∧
    (token.any Http.Client.isBarred = false → token'.any Http.Client.isBarred = false →
      ∀ library : Http.Library, library.Blind → ∀ report dryRun queue,
        let network := Http.Network.scripted library
        let r := (post dryRun).run (Http.world network (Settings.ofEnvironment env) report) queue
        let r' := (post dryRun).run (Http.world network (Settings.ofEnvironment env') report) queue
        r'.result = r.result ∧ r'.state = r.state ∧
          (Http.sights r'.trace).map Http.Sight.masked =
            (Http.sights r.trace).map Http.Sight.masked) := by
  refine ⟨?_, fun report host dryRun => ?_, fun legal legal' library blind report dryRun queue => ?_⟩
  · rw [Settings.load_withToken agree]
    cases Settings.load env with
    | error e => exact .inl ⟨e, rfl, rfl⟩
    | ok settings => exact .inr ⟨settings, settings.withToken token', rfl, rfl,
        settings.shown_withToken token', settings.shownInLines_withToken token'⟩
  · rw [Settings.ofEnvironment_withToken agree]
    have alike := alike_post (twin_script (Settings.ofEnvironment env) token' report host) dryRun ()
    exact ⟨alike.result.symm, alike.log_eq.symm⟩
  · have known (settings : Settings) (loaded : Settings.ofEnvironment env = .ok settings) :
        settings.token.any Http.Client.isBarred = false := by
      rw [Settings.token_of_ofEnvironment agree.given loaded, legal]
    have alike :=
      alike_post (Http.twin_world (Http.Network.blind_scripted blind) known legal' report) dryRun queue
    rw [Settings.ofEnvironment_withToken agree]
    exact ⟨alike.result.symm, alike.state.symm,
      by rw [Http.masked_sights, Http.masked_sights, alike.outline]⟩

/-- An environment for a host at a local address, with this token. -/
def environmentWith (token : Text) : Environment :=
  [(Settings.tokenName, token), (Settings.apiUrlName, "http://[::1]".toList),
    (Settings.repositoryName, "o/r".toList), (Settings.shaName, "c".toList)]

/-- Three requests are sent with either token. They are different, and look the same without it. -/
theorem post_hides_token_local :
    let r (token : Text) := (post false).run
      (Http.world (.scripted .plain) (Settings.ofEnvironment (environmentWith token)) (.ok [])) []
    (signals (r ['a']).trace).length = 3 ∧
      signals (r ['b']).trace ≠ signals (r ['a']).trace ∧
      (Http.sights (r ['b']).trace).map Http.Sight.masked =
        (Http.sights (r ['a']).trace).map Http.Sight.masked := by
  intro r
  have agree : AgreeButToken (environmentWith ['a']) (environmentWith ['b']) ['a'] ['b'] := by
    refine ⟨fun name other => ?_, by decide, by decide⟩
    simp [environmentWith, Environment.value?, List.find?_cons, other.symm]
  obtain ⟨-, -, network⟩ := post_hides_token agree
  exact ⟨by decide +kernel, by decide +kernel,
    (network (by decide) (by decide) .plain Http.Library.blind_plain (.ok []) false []).2.2⟩

end Posting

end CoverageNote
