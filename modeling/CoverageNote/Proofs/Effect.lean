import CoverageNote.Host.Session
import CoverageNote.Proofs.Conversation
import CoverageNote.Proofs.Store

/-!
# What a run does to a host

The conversation of a run says what it asks, and a host in memory answers by what it keeps. Together they
leave few ways for a run to go. `Store.Put` lists those of putting a body on a target, and `Store.Posted`
those of a whole run : with each way stand the result, the host after it, and whether the run missed what
was there (`Exchange.missed`), because a listing of comments or the change of a comment on a commit
failed. `SessionStep.posted_postRun` says that a run goes one of these ways.

No later result carries out a run again : what holds of a run over a host in memory is read off these
constructors.
-/

namespace CoverageNote

/-! ## The calls about a target -/

namespace Target

/-- The call for the comments on the target. -/
def listing : Target → Call
  | pullRequest number => .listPullRequestComments number
  | commit sha => .listCommitComments sha

/-- The call for a new comment on the target. -/
def creation (body : Text) : Target → Call
  | pullRequest number => .createPullRequestComment number body
  | commit sha => .createCommitComment sha body

/-- The call for a new body of a comment on the target. -/
def changing (id : Nat) (body : Text) : Target → Call
  | pullRequest _ => .updatePullRequestComment id body
  | commit _ => .updateCommitComment id body

/-- The outcome of a run that wrote by what it found. -/
def outcome (target : Target) : Option Nat → Outcome
  | none => .created target
  | some id => .updated target id

/-- The call of a run that writes by what it found. -/
def writing (target : Target) (body : Text) : Option Nat → Call
  | none => target.creation body
  | some id => target.changing id body

end Target

/-- Whether a run missed what was on its target : the comments could not be listed, or a comment of a
commit could not be changed. A run goes on after these failures, and writes a new comment. -/
def Exchange.missed (e : Exchange) : Bool :=
  match e.question with
  | .call (.listPullRequestComments _) | .call (.listCommitComments _)
  | .call (.updateCommitComment _ _) => !e.succeeded
  | _ => false

/-- The details of a run : those that are given, unless they are empty, or else those of the report, or
the placeholder without one. -/
def Posting.detailsFrom (supplied : Option Text) (report : Except Failure Text) : Text :=
  (supplied.filter fun t => !t.isEmpty).getD (report.toOption.getD detailsUnavailable)

/-- In a world with a fixed report the search for the details changes nothing. -/
theorem Posting.Detailed.of_replay {σ ε : Type} {world : World σ ε} {report : Except Failure Text}
    (fixed : ∀ s, world.answer .report s = (report, [], s)) {supplied : Option Text}
    {asked : List Exchange} {details : Text} {s t : σ} (detailed : Detailed supplied asked details)
    (replay : Replay world s asked t) : s = t ∧ details = detailsFrom supplied report := by
  cases detailed with
  | given h => exact ⟨replay.symm, by rw [detailsFrom, h]; rfl⟩
  | reported answer h =>
    obtain ⟨answered, rest⟩ := replay
    change answer = (world.answer .report s).1 at answered
    change t = (world.answer .report s).2.2 at rest
    rw [fixed] at answered rest
    subst answered
    exact ⟨rest.symm, by rw [detailsFrom, h]; rfl⟩

namespace Store

variable {s t : Store} {settings : Except Failure Settings} {report : Except Failure Text}

/-! ## The answers of a host -/

/-- Whether a call fails because its kind is told to. -/
def fails (s : Store) (c : Call) : Bool :=
  s.failing.contains c.name

theorem replay_settings {loaded : Except Failure Settings} {asked : List Exchange}
    (replay : Replay (world settings report) s (⟨.settings, loaded⟩ :: asked) t) :
    settings = loaded ∧ Replay (world settings report) s asked t :=
  ⟨replay.1.symm, replay.2⟩

theorem replay_connect {given : Settings} {connected : Except Failure Unit} {asked : List Exchange}
    (replay : Replay (world settings report) s (⟨.connect given, connected⟩ :: asked) t) :
    connected = .ok () ∧ Replay (world settings report) s asked t :=
  replay

/-- The answer to a call : it fails and changes nothing, or it is carried out. -/
theorem replay_call {c : Call} {answer : Except Failure c.Answer} {asked : List Exchange}
    (replay : Replay (world settings report) s (⟨.call c, answer⟩ :: asked) t) :
    (s.fails c = true ∧ answer = .error (failed c) ∧ Replay (world settings report) s asked t) ∨
      (s.fails c = false ∧ answer = (s.perform c).1 ∧
        Replay (world settings report) (s.perform c).2 asked t) := by
  obtain ⟨answered, rest⟩ := replay
  change answer = (s.call c).1 at answered
  change Replay _ (s.call c).2 _ _ at rest
  cases h : s.fails c with
  | true =>
    rw [show s.call c = (.error (failed c), s) from if_pos h] at answered rest
    exact .inl ⟨rfl, answered, rest⟩
  | false =>
    rw [show s.call c = s.perform c from if_neg (by simp_all [fails])] at answered rest
    exact .inr ⟨rfl, answered, rest⟩

/-- A comment that is listed can be changed, unless this kind of call fails. -/
theorem update_of_mem {u body : Text} {c : Comment} (h : c ∈ s.commentsOn u) :
    s.update c.id body = (.ok (), s.setBody c.id body) := by
  rw [update, if_pos (hasId_of_mem h)]

/-! ## Putting a body on a target -/

/-- The target of a run for a commit. -/
def targetFor (s : Store) (sha : Text) : Target :=
  Posting.targetOf sha (if s.fails (.listPullRequests sha) then [] else s.pulls)

/-- The ways to put a body on a target, each with whether something was missed, what comes of it, and the
host after it. -/
inductive Put (s : Store) (target : Target) (body : Text) :
    Bool → Except Failure Outcome → Store → Prop where
  | updated {comment : Comment} (heard : s.fails target.listing = false)
      (found : Comment.findMarked (s.commentsOn target.subject) = some comment)
      (works : s.fails (target.changing comment.id body) = false) :
    Put s target body false (.ok (.updated target comment.id)) (s.setBody comment.id body)
  | created (heard : s.fails target.listing = false)
      (absent : Comment.findMarked (s.commentsOn target.subject) = none)
      (works : s.fails (target.creation body) = false) :
    Put s target body false (.ok (.created target)) (s.add target.subject body)
  | createdUnseen
      (unseen : s.fails target.listing = true ∨ ∃ id, s.fails (target.changing id body) = true) :
    Put s target body true (.ok (.created target)) (s.add target.subject body)
  | failed {missed : Bool} (failure : Failure)
      (h : s.fails (target.creation body) = true ∨
        ∃ id, s.fails (target.changing id body) = true) :
    Put s target body missed (.error failure) s

/-- What comes of the call for a new comment : it fails, or the comment is added. -/
theorem put_of_written {target : Target} {body : Text} {missed : Bool} {failure : Failure}
    {written : Except Failure Unit}
    (answer : (s.fails (target.creation body) = true ∧ written = .error failure ∧ t = s) ∨
      (s.fails (target.creation body) = false ∧ written = .ok () ∧ t = s.add target.subject body))
    (put : s.fails (target.creation body) = false →
      Put s target body missed (.ok (.created target)) (s.add target.subject body)) :
    Put s target body missed (written.map fun _ => .created target) t := by
  rcases answer with ⟨fails, rfl, rfl⟩ | ⟨works, rfl, rfl⟩
  · exact .failed failure (.inl fails)
  · exact put works

/-- On a host in memory every conversation about a target goes one of the ways. -/
theorem put_of_upserted {target : Target} {body : Text} {asked : List Exchange}
    {outcome : Except Failure Outcome} (put : Posting.Upserted body target asked outcome)
    (replay : Replay (world settings report) s asked t) :
    Put s target body (asked.any Exchange.missed) outcome t := by
  cases put with
  | @updatedPullRequest number listed comment written found =>
    rcases replay_call replay with ⟨_, rfl, _⟩ | ⟨heard, rfl, rest⟩
    · cases found
    rcases replay_call rest with ⟨fails, rfl, rfl⟩ | ⟨works, rfl, rfl⟩
    · exact .failed _ (.inr ⟨comment.id, fails⟩)
    · simp only [perform, update_of_mem (mem_of_findMarked found)]
      exact .updated heard found works
  | createdOnPullRequest listed absent =>
    rcases replay_call replay with ⟨unheard, rfl, rest⟩ | ⟨heard, rfl, rest⟩
    · exact put_of_written (replay_call rest) fun _ => .createdUnseen (.inl unheard)
    · exact put_of_written (replay_call rest) fun works => .created heard absent works
  | @updatedOnCommit sha listed comment found =>
    rcases replay_call replay with ⟨_, rfl, _⟩ | ⟨heard, rfl, rest⟩
    · cases found
    rcases replay_call rest with ⟨_, failed, _⟩ | ⟨works, _, rfl⟩
    · cases failed
    · simp only [perform, update_of_mem (mem_of_findMarked found)]
      exact .updated heard found works
  | createdOnCommit listed absent =>
    rcases replay_call replay with ⟨unheard, rfl, rest⟩ | ⟨heard, rfl, rest⟩
    · exact put_of_written (replay_call rest) fun _ => .createdUnseen (.inl unheard)
    · exact put_of_written (replay_call rest) fun works => .created heard absent works
  | @recreatedOnCommit sha listed comment failure written found =>
    rcases replay_call replay with ⟨_, rfl, _⟩ | ⟨heard, rfl, rest⟩
    · cases found
    rcases replay_call rest with ⟨fails, _, rest⟩ | ⟨_, changed, _⟩
    · exact put_of_written (replay_call rest) fun _ => .createdUnseen (.inr ⟨comment.id, fails⟩)
    · simp only [perform, update_of_mem (mem_of_findMarked found)] at changed
      cases changed

/-! ## A whole run -/

/-- The ways a run over a host in memory can go, each with whether something was missed, the result, and
the host after it. -/
inductive Posted (settings : Except Failure Settings) (report : Except Failure Text) (dryRun : Bool)
    (s : Store) : Bool → Except Failure (Option Outcome) → Store → Prop where
  | unsettled {failure : Failure} (loaded : settings = .error failure) :
    Posted settings report dryRun s false
      (.error (failure.within "failed to load settings".toList)) s
  | previewed {given : Settings} (loaded : settings = .ok given) (dry : dryRun = true) :
    Posted settings report dryRun s false (.ok none) s
  | published {given : Settings} {missed : Bool} {outcome : Except Failure Outcome} {t : Store}
      (loaded : settings = .ok given) (wet : dryRun = false)
      (put : Put s (s.targetFor given.sha)
        (Posting.body given (Posting.detailsFrom given.coverageDetails report)) missed outcome t) :
    Posted settings report dryRun s missed (outcome.map some) t

/-- The search for the details leaves the host alone. -/
theorem replay_detailed {supplied : Option Text} {asked : List Exchange} {details : Text}
    (detailed : Posting.Detailed supplied asked details)
    (replay : Replay (world settings report) s asked t) :
    s = t ∧ details = Posting.detailsFrom supplied report ∧ asked.any Exchange.missed = false := by
  obtain ⟨unchanged, found⟩ := detailed.of_replay (fun _ => rfl) replay
  exact ⟨unchanged, found, by cases detailed <;> rfl⟩

theorem posted_of_conversation {dryRun : Bool} {asked : List Exchange}
    {result : Except Failure (Option Outcome)}
    (talk : Posting.Conversation dryRun asked result)
    (replay : Replay (world settings report) s asked t) :
    Posted settings report dryRun s (asked.any Exchange.missed) result t := by
  cases talk with
  | unsettled failure =>
    obtain ⟨loaded, rfl⟩ := replay_settings replay
    exact .unsettled loaded
  | @previewed given asked details dry detailed =>
    obtain ⟨loaded, rest⟩ := replay_settings replay
    obtain ⟨rfl, -, seen⟩ := replay_detailed detailed rest
    show Posted settings report dryRun s (asked.any Exchange.missed) _ _
    rw [seen]
    exact .previewed loaded dry
  | unconnected failure wet detailed =>
    obtain ⟨-, rest⟩ := replay_settings replay
    obtain ⟨_, -, connecting⟩ := rest.of_append
    cases (replay_connect connecting).1
  | @published given asked details pulls upserted outcome wet detailed put =>
    obtain ⟨loaded, rest⟩ := replay_settings replay
    obtain ⟨_, detailing, connecting⟩ := rest.of_append
    obtain ⟨rfl, rfl, seen⟩ := replay_detailed detailed detailing
    have missed : (asked ++ ⟨.connect given, .ok ()⟩ ::
        ⟨.call (.listPullRequests given.sha), pulls⟩ :: upserted).any Exchange.missed =
          upserted.any Exchange.missed := by
      rw [List.any_append, seen]
      rfl
    show Posted settings report dryRun s ((asked ++ _).any Exchange.missed) _ _
    rw [missed]
    refine .published loaded wet ?_
    rcases replay_call (replay_connect connecting).2 with
      ⟨fails, rfl, putting⟩ | ⟨works, rfl, putting⟩
    · rw [targetFor, if_pos fails]
      exact put_of_upserted put putting
    · rw [targetFor, if_neg (by simp [works])]
      exact put_of_upserted put putting

end Store

/-- Every run over a host in memory goes one of the ways. -/
theorem SessionStep.posted_postRun (env : Environment) (report : Except Failure Text)
    (dryRun : Bool) (s : Store) :
    Store.Posted (Settings.ofEnvironment env) report dryRun s
      ((exchanges (postRun env report dryRun s).trace).any Exchange.missed)
      (postRun env report dryRun s).result (postRun env report dryRun s).state :=
  Store.posted_of_conversation (Posting.conversation_post _ s dryRun) (replay_run _ _ s)

end CoverageNote
