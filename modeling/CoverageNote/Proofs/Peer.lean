import CoverageNote.Proofs.Requests

/-!
# A run with a peer

A run makes calls, and the client turns each into a request. The peer of `Wire.scripted` answers the
requests, and what it has in its queue decides how the run goes on. `Http.reply` is the answer to the
request in a place.

Which library sends the requests is left open. It is only asked for one thing, that it takes a response that
names no other location as the last one (`Library.Direct`), and this is all that is needed for a peer whose
answers have no headers.

* `Http.signals_run` says of every plan that its requests are those for its calls, one for each, as long as a
  connection can be made for each of them.
* `Posting.calls_of_conversation` says which calls a run makes by these answers, and whether it succeeds.

`Posting.post_requests` puts these together. That the URLs can be read is not enough for it
(`Posting.post_unsent_or_repeated`) : no connection is made to a host with a brace in its name.
-/

namespace CoverageNote

variable {α σ ε : Type}

/-! ## Calls and signals -/

/-- The calls that were made during a run, in order. -/
def calls (trace : List (Moment ε)) : List Call :=
  (exchanges trace).filterMap Exchange.call?

/-- What was sent at a moment. -/
def Moment.sent : Moment ε → List ε
  | .said _ => []
  | .asked _ _ sent => sent

/-- What was sent during a run, in order. -/
def signals (trace : List (Moment ε)) : List ε :=
  trace.flatMap Moment.sent

namespace Http

/-! ## The answers of a peer -/

/-- No response in the queue has a header. -/
def Headerless (queue : List (Option Response)) : Prop :=
  ∀ r, some r ∈ queue → r.headers = []

theorem Headerless.tail {queue : List (Option Response)} (headerless : Headerless queue) :
    Headerless queue.tail :=
  fun r h => headerless r (List.mem_of_mem_tail h)

/-- What the peer with this queue has for the request number `n`, where the first one has the number 0. -/
def reply (queue : List (Option Response)) (n : Nat) : Contact :=
  match queue[n]? with
  | none => .answered Wire.exhausted
  | some none => .unanswered
  | some (some r) => .answered (Wire.sent r)

theorem reply_tail (queue : List (Option Response)) (n : Nat) :
    reply queue.tail n = reply queue (n + 1) := by
  simp [reply]

/-- The response that says that the request was carried out, if it is complete. -/
def Contact.accepted? : Contact → Option Response
  | unreachable | unanswered => none
  | answered r => if r.complete && isSuccess r.status then some r else none

/-- The value that comes back for a request that was carried out. -/
def Contact.value? (contact : Contact) : Option Json :=
  contact.accepted?.bind Client.valueOf

/-! ## One exchange with a peer -/

/-- Where the wire answers with no location to go to, the request is sent once and the answer is final. -/
def Library.Direct (library : Library) : Prop :=
  ∀ {σ : Type} (wire : Wire σ) (request : Request) (s : σ),
    (∀ r, (wire.contact request s).1 = .answered r → r.header? "location".toList = none) →
      library.send wire request s = wire.once request s

theorem Library.direct_plain : Library.plain.Direct :=
  fun _ _ _ _ => rfl

theorem contact_scripted {request : Request} (plain : request.url.scheme = "http".toList)
    (queue : List (Option Response)) :
    Wire.scripted.contact request queue = (reply queue 0, queue.tail) := by
  unfold Wire.scripted
  dsimp only
  rw [if_neg (not_not_intro plain)]
  rcases queue with _ | ⟨_ | r, rest⟩ <;> rfl

/-- To the peer every request comes. -/
theorem exchange_reply (queue : List (Option Response)) (n : Nat) (request : Request)
    (s : List (Option Response)) :
    (reply queue n).exchange request s =
      ⟨match reply queue n with
        | .answered r => .ok r
        | _ => .error (.unsent request.url), [request], s⟩ := by
  unfold reply
  split <;> rfl

section Scripted

variable {library : Library} (direct : library.Direct) {queue : List (Option Response)}
  (headerless : Headerless queue)

include headerless in
/-- The answers of the peer name no location. -/
theorem header?_reply {n : Nat} {r : Response} (h : reply queue n = .answered r) (name : Text) :
    r.header? name = none := by
  have bare : r.headers = [] := by
    unfold reply at h
    split at h
    · cases h
      rfl
    · cases h
    · next r' found =>
      cases h
      have kept := headerless r' (List.mem_of_getElem? found)
      unfold Wire.sent
      split <;> exact kept
  rw [Response.header?, bare]
  rfl

include direct headerless

/-- The request is sent once, and takes one answer of the queue. -/
theorem exchange_scripted {request : Request} (plain : request.url.scheme = "http".toList) :
    (Network.scripted library).exchange request queue =
      ⟨match reply queue 0 with
        | .answered r => .ok r
        | _ => .error (.unsent request.url), [request], queue.tail⟩ := by
  have contact := contact_scripted plain queue
  have once : library.send .scripted request queue = Wire.scripted.once request queue := by
    refine direct _ _ _ fun r answered => ?_
    rw [contact] at answered
    exact header?_reply headerless answered _
  show library.send .scripted request queue = _
  rw [once, Wire.once, contact, exchange_reply]

/-- What comes of a request that can be made. -/
theorem request_scripted (c : Client) {method : Method} {path : Text} {body : Option Json}
    {request : Request} (built : c.build method path body = .ok request)
    (plain : request.url.scheme = "http".toList) :
    ∃ result, c.request (.scripted library) method path body queue = (result, [request], queue.tail) ∧
      result.toOption = (reply queue 0).accepted?.map Client.valueOf := by
  unfold Client.request
  simp only [built, exchange_scripted direct headerless plain]
  cases reply queue 0 with
  | unreachable | unanswered => exact ⟨_, rfl, rfl⟩
  | answered r =>
    refine ⟨_, rfl, ?_⟩
    simp only [Client.conclude, Contact.accepted?]
    cases r.complete <;> cases isSuccess r.status <;> rfl

/-- What comes of a call whose request can be made. -/
theorem call_scripted (c : Client) {call : Call} {request : Request}
    (built : c.requestOf call = .ok request) (plain : request.url.scheme = "http".toList) :
    ∃ answer, c.call (.scripted library) call queue = (answer, [request], queue.tail) ∧
      answer.toOption =
        (reply queue 0).accepted?.map fun r => Client.answerOf call (Client.valueOf r) := by
  obtain ⟨result, sent, heard⟩ := request_scripted direct headerless c built plain
  refine ⟨result.map (Client.answerOf call), ?_, ?_⟩
  · unfold Client.call
    rw [sent]
  · rw [show (fun r => Client.answerOf call (Client.valueOf r)) =
      Client.answerOf call ∘ Client.valueOf from rfl, ← Option.map_map, ← heard]
    cases result <;> rfl

end Scripted

/-! ## A run with a peer -/

/-- The world of a run over plain connections with these settings. -/
def peerWorld (library : Library) (settings : Settings) (report : Except Failure Text) :
    World (List (Option Response)) Request :=
  world (.scripted library) (.ok settings) report

section Peer

variable {library : Library} (direct : library.Direct) {settings : Settings}
  {report : Except Failure Text} {queue t : List (Option Response)}
  (legal : settings.token.any Client.isBarred = false) (headerless : Headerless queue)
include direct legal headerless

/-- A call that reaches the peer is one request, and takes one answer of the queue. -/
theorem answer_call (report : Except Failure Text) {c : Call}
    (reached : (Client.ofSettings settings).reaches c = true) :
    ∃ request answer, (Client.ofSettings settings).requestOf c = .ok request ∧
      (peerWorld library settings report).answer (.call c) queue = (answer, [request], queue.tail) ∧
      answer.toOption =
        (reply queue 0).accepted?.map fun r => Client.answerOf c (Client.valueOf r) := by
  obtain ⟨url, request, known, built, -, url_eq⟩ := Client.requestOf_of_reaches legal reached
  have scheme_eq : request.url.scheme = "http".toList := by
    rw [url_eq, Client.scheme_stripped, (Client.urlOf?_eq_some known).2]
  obtain ⟨answer, sent, heard⟩ := call_scripted direct headerless _ built scheme_eq
  exact ⟨request, answer, built, sent, heard⟩

/-- The requests of a run are those for its calls, one for each. -/
theorem signals_run (p : Plan α)
    (reached : ∀ c ∈ calls (p.run (peerWorld library settings report) queue).trace,
      (Client.ofSettings settings).reaches c = true) :
    (calls (p.run (peerWorld library settings report) queue).trace).map (Client.ofSettings settings).requestOf =
      (signals (p.run (peerWorld library settings report) queue).trace).map .ok := by
  induction p generalizing queue with
  | done a => rfl
  | say n rest ih => exact ih headerless reached
  | ask q next ih =>
    cases q with
    | settings => exact ih _ headerless reached
    | report => exact ih _ headerless reached
    | connect given => exact ih _ headerless reached
    | call c =>
      obtain ⟨request, answer, built, sent, -⟩ :=
        answer_call direct legal headerless report (reached c List.mem_cons_self)
      have run_eq : (Plan.ask (.call c) next).run (peerWorld library settings report) queue =
          let rest := (next answer).run (peerWorld library settings report) queue.tail
          { rest with trace := .asked (.call c) answer [request] :: rest.trace } := by
        simp only [Plan.run, sent]
      rw [run_eq] at reached ⊢
      have later := ih answer headerless.tail fun c hc => reached c (List.mem_cons_of_mem _ hc)
      exact congr (congrArg List.cons built) later

end Peer

end Http

/-! ## The calls of a run -/

namespace Posting

open Http (Client Contact Headerless Library Request Response peerWorld reply)

theorem isSome_toOption_map {α β : Type} (f : α → β) (result : Except Failure α) :
    (result.map f).toOption.isSome = result.toOption.isSome := by
  cases result <;> rfl

/-- A listing that fails lists nothing. -/
theorem listing_value {α : Type} {read : Json → Option α} {contact : Contact}
    {listed : Except Failure (List α)}
    (heard : listed.toOption = contact.accepted?.map fun r => listing read (Client.valueOf r)) :
    listed.toOption.getD [] = listing read contact.value? := by
  rw [heard, Contact.value?]
  cases contact.accepted? <;> rfl

theorem foundId_value {contact : Contact} {listed : Except Failure (List Comment)}
    {found : Option Comment}
    (heard : listed.toOption =
      contact.accepted?.map fun r => Comment.ofListing (Client.valueOf r))
    (h : Comment.findMarked (listed.toOption.getD []) = found) :
    (Comment.findMarked (Comment.ofListing contact.value?)).map Comment.id = found.map Comment.id := by
  rw [← h, listing_value heard]
  rfl

/-- No call is made for the details. -/
theorem Detailed.filterMap_call? {supplied : Option Text} {asked : List Exchange} {details : Text}
    (detailed : Detailed supplied asked details) : asked.filterMap Exchange.call? = [] := by
  cases detailed <;> rfl

section Peer

variable {library : Library} (direct : library.Direct) {settings : Settings}
  {report : Except Failure Text} {queue t : List (Option Response)}
  (legal : settings.token.any Client.isBarred = false) (headerless : Headerless queue)
include direct legal headerless

/-- The answer to a call that reaches the peer is the next one of the queue. -/
theorem replay_call {c : Call} {answer : Except Failure c.Answer} {asked : List Exchange}
    (replay : Replay (peerWorld library settings report) queue (⟨.call c, answer⟩ :: asked) t)
    (reached : (Client.ofSettings settings).reaches c = true) :
    (answer.toOption =
        (reply queue 0).accepted?.map fun r => Client.answerOf c (Client.valueOf r)) ∧
      Replay (peerWorld library settings report) queue.tail asked t := by
  obtain ⟨answered, rest⟩ := replay
  obtain ⟨request, answer', -, sent, heard⟩ :=
    Http.answer_call direct legal headerless report reached
  rw [sent] at answered rest
  change answer = answer' at answered
  exact ⟨answered ▸ heard, rest⟩

/-- A write succeeds if the next answer of the queue says so. -/
theorem replay_write {c : Call} {written : Except Failure c.Answer} {asked : List Exchange}
    (replay : Replay (peerWorld library settings report) queue (⟨.call c, written⟩ :: asked) t)
    (reached : (Client.ofSettings settings).reaches c = true) :
    written.toOption.isSome = (reply queue 0).accepted?.isSome ∧
      Replay (peerWorld library settings report) queue.tail asked t := by
  obtain ⟨heard, rest⟩ := replay_call direct legal headerless replay reached
  exact ⟨by rw [heard, Option.isSome_map], rest⟩

/-- A listing and the write after it take the next two answers of the queue. -/
theorem replay_listing_write (target : Target) {c : Call}
    {listed : Except Failure target.listing.Answer} {written : Except Failure c.Answer}
    {asked : List Exchange}
    (replay : Replay (peerWorld library settings report) queue
      (⟨.call target.listing, listed⟩ :: ⟨.call c, written⟩ :: asked) t)
    (reads : (Client.ofSettings settings).reaches target.listing = true)
    (writes : (Client.ofSettings settings).reaches c = true) :
    (listed.toOption = (reply queue 0).accepted?.map fun r =>
        Client.answerOf target.listing (Client.valueOf r)) ∧
      written.toOption.isSome = (reply queue 1).accepted?.isSome ∧
      Replay (peerWorld library settings report) queue.tail.tail asked t := by
  obtain ⟨heard, rest⟩ := replay_call direct legal headerless replay reads
  obtain ⟨answered, rest⟩ := replay_write direct legal headerless.tail rest writes
  exact ⟨heard, by rw [answered, Http.reply_tail], rest⟩

/-- What is asked for a target, and what comes of it, by the answers in the queue. -/
theorem calls_upserted {body : Text} {target : Target} {asked : List Exchange}
    {outcome : Except Failure Outcome} (put : Upserted body target asked outcome)
    (replay : Replay (peerWorld library settings report) queue asked t)
    (reached : ∀ c ∈ asked.filterMap Exchange.call?, (Client.ofSettings settings).reaches c = true) :
    let found := (Comment.findMarked (Comment.ofListing (reply queue 0).value?)).map Comment.id
    let again := if (reply queue 1).accepted?.isSome then [] else target.remedy body found
    asked.filterMap Exchange.call? = target.listing :: target.writing body found :: again ∧
      outcome.toOption.isSome = (reply queue (1 + again.length)).accepted?.isSome := by
  intro found again
  cases put with
  | @updatedPullRequest number listed comment written hfound =>
    obtain ⟨heard, answered, -⟩ :=
      replay_listing_write direct legal headerless (.pullRequest number) replay (reached _ (.head _))
        (reached _ (.tail _ (.head _)))
    have found_eq : found = some comment.id := foundId_value heard hfound
    have again_eq : again = [] := ite_self _
    rw [found_eq, again_eq, isSome_toOption_map]
    exact ⟨rfl, answered⟩
  | @createdOnPullRequest number listed written absent =>
    obtain ⟨heard, answered, -⟩ :=
      replay_listing_write direct legal headerless (.pullRequest number) replay (reached _ (.head _))
        (reached _ (.tail _ (.head _)))
    have found_eq : found = none := foundId_value heard absent
    have again_eq : again = [] := ite_self _
    rw [found_eq, again_eq, isSome_toOption_map]
    exact ⟨rfl, answered⟩
  | @updatedOnCommit sha listed comment hfound =>
    obtain ⟨heard, answered, -⟩ :=
      replay_listing_write direct legal headerless (.commit sha) replay (reached _ (.head _))
        (reached _ (.tail _ (.head _)))
    have found_eq : found = some comment.id := foundId_value heard hfound
    have again_eq : again = [] := if_pos answered.symm
    rw [found_eq, again_eq]
    exact ⟨rfl, answered⟩
  | @createdOnCommit sha listed written absent =>
    obtain ⟨heard, answered, -⟩ :=
      replay_listing_write direct legal headerless (.commit sha) replay (reached _ (.head _))
        (reached _ (.tail _ (.head _)))
    have found_eq : found = none := foundId_value heard absent
    have again_eq : again = [] := by
      simp only [again, found_eq]
      exact ite_self _
    rw [found_eq, again_eq, isSome_toOption_map]
    exact ⟨rfl, answered⟩
  | @recreatedOnCommit sha listed comment failure written hfound =>
    obtain ⟨heard, failed, rest⟩ :=
      replay_listing_write direct legal headerless (.commit sha) replay (reached _ (.head _))
        (reached _ (.tail _ (.head _)))
    obtain ⟨answered, -⟩ := replay_write direct legal headerless.tail.tail rest
      (reached _ (.tail _ (.tail _ (.head _))))
    have found_eq : found = some comment.id := foundId_value heard hfound
    have again_eq : again = [.createCommitComment sha body] := by
      simp only [again, found_eq]
      exact if_neg (by simp [← failed, Except.toOption])
    rw [found_eq, again_eq, isSome_toOption_map]
    exact ⟨rfl, answered.trans (by rw [Http.reply_tail, Http.reply_tail]; rfl)⟩

/-- The calls of a real run, and what comes of it, by the answers in the queue. -/
theorem calls_of_conversation {asked : List Exchange} {result : Except Failure (Option Outcome)}
    (talk : Conversation false asked result)
    (replay : Replay (peerWorld library settings report) queue asked t)
    (reached : ∀ c ∈ asked.filterMap Exchange.call?, (Client.ofSettings settings).reaches c = true) :
    let body := body settings (detailsFrom settings.coverageDetails report)
    let target := targetOf settings.sha (PullRequest.ofListing (reply queue 0).value?)
    let found := (Comment.findMarked (Comment.ofListing (reply queue 1).value?)).map Comment.id
    let again := if (reply queue 2).accepted?.isSome then [] else target.remedy body found
    asked.filterMap Exchange.call? =
        .listPullRequests settings.sha :: target.listing :: target.writing body found :: again ∧
      result.toOption.isSome = (reply queue (2 + again.length)).accepted?.isSome := by
  intro body' target found again
  cases talk with
  | unsettled failure => cases replay.1
  | previewed dry _ => cases dry
  | unconnected failure _ detailed =>
    obtain ⟨_, -, connecting⟩ := replay.2.of_append
    cases connecting.1
  | @published given asked details pulls upserted outcome _ detailed put =>
    obtain ⟨loaded, rest⟩ := replay
    cases loaded
    obtain ⟨_, detailing, connecting⟩ := rest.of_append
    obtain ⟨rfl, rfl⟩ := detailed.of_replay (fun _ => rfl) detailing
    have made : (⟨.settings, .ok settings⟩ :: asked ++ ⟨.connect settings, .ok ()⟩ ::
        ⟨.call (.listPullRequests settings.sha), pulls⟩ :: upserted).filterMap Exchange.call? =
          .listPullRequests settings.sha :: upserted.filterMap Exchange.call? := by
      rw [List.filterMap_append, List.filterMap_cons, detailed.filterMap_call?]
      rfl
    rw [made] at reached ⊢
    obtain ⟨heard, placing⟩ := replay_call direct legal headerless connecting.2 (reached _ (.head _))
    rw [listing_value heard] at put
    obtain ⟨calls_eq, outcome_eq⟩ := calls_upserted direct legal headerless.tail put placing
      fun c hc => reached c (.tail _ hc)
    rw [isSome_toOption_map, outcome_eq, calls_eq]
    simp only [Http.reply_tail]
    refine ⟨rfl, ?_⟩
    rw [show 2 + again.length = 1 + again.length + 1 by omega]
    rfl

/-- A real run with a peer whose answers have no headers, by a library that goes on after a response only where
it names a location, sends three or four requests : the two listings, a write by what was found, and on a
commit a second write if the first was a change and it failed. Each is sent once and takes one answer of the
queue, no two are the same, and the run succeeds exactly if the answer to the last one says so and is
complete. To the peer, which does not see the fragments of the URLs, no two are the same unless there are
some. -/
theorem post_requests
    (reached : ∀ c ∈ calls ((post false).run (peerWorld library settings report) queue).trace,
      (Client.ofSettings settings).reaches c = true) :
    let client := Client.ofSettings settings
    let r := (post false).run (peerWorld library settings report) queue
    let body := body settings (detailsFrom settings.coverageDetails report)
    let target := targetOf settings.sha (PullRequest.ofListing (reply queue 0).value?)
    let found := (Comment.findMarked (Comment.ofListing (reply queue 1).value?)).map Comment.id
    let again := if (reply queue 2).accepted?.isSome then [] else target.remedy body found
    let sent := signals r.trace
    calls r.trace =
        .listPullRequests settings.sha :: target.listing :: target.writing body found :: again ∧
      (calls r.trace).map client.requestOf = sent.map .ok ∧
      (sent.length = 3 ∨ sent.length = 4) ∧
      ((∃ o, r.result = .ok o) ↔ (reply queue (sent.length - 1)).accepted?.isSome = true) ∧
      sent.Nodup ∧
      ((∀ c ∈ calls r.trace, '#' ∉ client.address (client.pathOf c)) →
        (sent.map Request.onWire).Nodup) := by
  intro client r body' target found again sent
  obtain ⟨calls_eq, result_eq⟩ :
      calls r.trace = .listPullRequests settings.sha :: target.listing ::
          target.writing body' found :: again ∧
        r.result.toOption.isSome = (reply queue (2 + again.length)).accepted?.isSome :=
    calls_of_conversation direct legal headerless
      (conversation_post (peerWorld library settings report) queue false)
      (replay_run (peerWorld library settings report) (post false) queue) reached
  have sent_eq : (calls r.trace).map client.requestOf = sent.map .ok :=
    Http.signals_run direct legal headerless (post false) reached
  have sub : again.Sublist (target.remedy body' found) := by
    unfold again
    split
    · exact List.nil_sublist _
    · exact List.Sublist.refl _
  have short := Nat.le_trans sub.length_le (Client.length_remedy_le body' target found)
  have length_eq : sent.length = 3 + again.length := by
    have lengths := congrArg List.length sent_eq
    rw [List.length_map, List.length_map, calls_eq] at lengths
    simp only [List.length_cons] at lengths
    omega
  have distinct : sent.Nodup := by
    have made : ((calls r.trace).map client.requestOf).Nodup := by
      rw [calls_eq]
      exact Client.nodup_requestOf legal sub fun c hc => reached c (calls_eq ▸ hc)
    rw [sent_eq] at made
    exact (List.pairwise_map.mp made).imp fun different same => different (congrArg Except.ok same)
  refine ⟨calls_eq, sent_eq, by omega, ?_, distinct, fun whole => ?_⟩
  · rw [show sent.length - 1 = 2 + again.length by omega, ← result_eq]
    cases r.result <;> simp [Except.toOption]
  · have visible : sent.map Request.onWire = sent := by
      refine List.map_congr_left (g := id) (fun request h => ?_) |>.trans (List.map_id _)
      have made : Except.ok request ∈ (calls r.trace).map client.requestOf :=
        sent_eq ▸ List.mem_map_of_mem h
      obtain ⟨c, hc, built⟩ := List.mem_map.mp made
      exact Client.onWire_of_requestOf built (whole c hc)
    rw [visible]
    exact distinct

end Peer

/-- A comment that is found on a commit and cannot be changed is written anew. -/
theorem post_requests_recreated :
    let settings := settingsFor "http://[::1]".toList "c".toList
    let report : Except Failure Text := .error (.plain "no go".toList)
    let comments : Json :=
      .array [.array [.number (.natural 7), .string marker]]
    let queue : List (Option Response) :=
      [some ⟨200, [], Utf8.encode "[]".toList, true⟩, some ⟨200, [], Utf8.encode comments.text, true⟩,
        none, some ⟨201, [], [], true⟩]
    let r := (post false).run (peerWorld .plain settings report) queue
    let body := body settings detailsUnavailable
    Headerless queue ∧ settings.token.any Client.isBarred = false ∧
      (∀ c ∈ calls r.trace, (Client.ofSettings settings).reaches c = true) ∧
      calls r.trace = [.listPullRequests "c".toList, .listCommitComments "c".toList,
        .updateCommitComment 7 body, .createCommitComment "c".toList body] ∧
      (signals r.trace).length = 4 ∧ ∃ o, r.result = .ok o := by
  intro settings report comments queue r body
  have headerless : Headerless queue := by
    intro response h
    simp only [queue, List.mem_cons, List.not_mem_nil, or_false] at h
    rcases h with h | h | h | h <;> cases h <;> rfl
  have legal : settings.token.any Client.isBarred = false := by decide
  have reached : ∀ c ∈ calls r.trace, (Client.ofSettings settings).reaches c = true := by
    decide +kernel
  obtain ⟨calls_eq, sent_eq, -, success, -⟩ :=
    post_requests Library.direct_plain legal headerless reached
  have made : calls r.trace = [.listPullRequests "c".toList, .listCommitComments "c".toList,
      .updateCommitComment 7 body, .createCommitComment "c".toList body] :=
    calls_eq.trans (by decide +kernel)
  have sent : (signals r.trace).length = 4 := by
    rw [made] at sent_eq
    simpa using (congrArg List.length sent_eq).symm
  refine ⟨headerless, legal, reached, made, sent, success.mpr ?_⟩
  rw [sent]
  decide

/-- Without a connection no request is sent, although the URLs can be read : a host may hold a brace in a
URL, and not where a connection is made. And two requests can be the same to the peer : behind a `#` in the
name of the commit a URL is not sent. -/
theorem post_unsent_or_repeated :
    let braced := settingsFor "http://\x7b".toList "c".toList
    let hashed := settingsFor "http://[::1]".toList "c#".toList
    let report : Except Failure Text := .error (.plain "no go".toList)
    let r := (post false).run (peerWorld .plain braced report) []
    let r' := (post false).run (peerWorld .plain hashed report) []
    braced.token.any Client.isBarred = false ∧ hashed.token.any Client.isBarred = false ∧
      Headerless [] ∧
      (∀ c ∈ calls r.trace, ((Client.ofSettings braced).urlOf? c).isSome = true) ∧
      signals r.trace = [] ∧
      (∀ c ∈ calls r'.trace, ((Client.ofSettings hashed).urlOf? c).isSome = true) ∧
      ¬((signals r'.trace).map Request.onWire).Nodup := by
  intro braced hashed report r r'
  exact ⟨by decide, by decide, nofun, by decide +kernel⟩

end Posting

end CoverageNote
