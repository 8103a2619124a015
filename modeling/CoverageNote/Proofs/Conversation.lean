import CoverageNote.Host.Script
import CoverageNote.Proofs.Lookup

/-!
# The conversation of a run

A run asks one thing after another, and what it asks next is decided by the answers so far.
`Posting.Conversation` says which sequences of exchanges a run can have, and with which result : there is
one constructor for each way a run can end. `Posting.conversation_post` says that a run has no other, in
any world.

Whatever is to be known of the calls of a run can then be read off the constructors :

* a dry run and a run without settings ask nothing of the host (`Conversation.offline`), and neither does
  a run that cannot connect (`Conversation.refused`);
* any other run ends with a write, which alone can have succeeded, and its result is what came of that
  write (`Conversation.quiet_or_concat`).

`Posting.post_keeps_protocol` puts these together.
-/

namespace CoverageNote

variable {σ ε : Type}

/-! ## What a run can ask -/

namespace Posting

/-- The target that the pull requests in an answer lead to. -/
def resolved? : Exchange → Option Target
  | ⟨.call (.listPullRequests sha), pulls⟩ => some (targetOf sha (pulls.toOption.getD []))
  | _ => none

/-- How the details are found : they are given, or the report command is asked for them. -/
inductive Detailed (supplied : Option Text) : List Exchange → Text → Prop where
  | given {details : Text} (h : (supplied.filter fun t => !t.isEmpty) = some details) :
    Detailed supplied [] details
  | reported (answer : Except Failure Text) (h : (supplied.filter fun t => !t.isEmpty) = none) :
    Detailed supplied [⟨.report, answer⟩] (answer.toOption.getD detailsUnavailable)

/-- How the body is put on a target : what is asked for it, and what comes of it. A comment that is found
is changed, and else a new one is written; on a commit a new one is also written if the change fails. -/
inductive Upserted (body : Text) : Target → List Exchange → Except Failure Outcome → Prop where
  | updatedPullRequest {number : Nat} (listed : Except Failure (List Comment)) {comment : Comment}
      {written : Except Failure Unit}
      (found : Comment.findMarked (listed.toOption.getD []) = some comment) :
    Upserted body (.pullRequest number)
      [⟨.call (.listPullRequestComments number), listed⟩,
        ⟨.call (.updatePullRequestComment comment.id body), written⟩]
      (written.map fun _ => .updated (.pullRequest number) comment.id)
  | createdOnPullRequest {number : Nat} (listed : Except Failure (List Comment))
      {written : Except Failure Unit}
      (absent : Comment.findMarked (listed.toOption.getD []) = none) :
    Upserted body (.pullRequest number)
      [⟨.call (.listPullRequestComments number), listed⟩,
        ⟨.call (.createPullRequestComment number body), written⟩]
      (written.map fun _ => .created (.pullRequest number))
  | updatedOnCommit {sha : Text} (listed : Except Failure (List Comment)) {comment : Comment}
      (found : Comment.findMarked (listed.toOption.getD []) = some comment) :
    Upserted body (.commit sha)
      [⟨.call (.listCommitComments sha), listed⟩,
        ⟨.call (.updateCommitComment comment.id body), .ok ()⟩]
      (.ok (.updated (.commit sha) comment.id))
  | createdOnCommit {sha : Text} (listed : Except Failure (List Comment))
      {written : Except Failure Unit}
      (absent : Comment.findMarked (listed.toOption.getD []) = none) :
    Upserted body (.commit sha)
      [⟨.call (.listCommitComments sha), listed⟩, ⟨.call (.createCommitComment sha body), written⟩]
      (written.map fun _ => .created (.commit sha))
  | recreatedOnCommit {sha : Text} (listed : Except Failure (List Comment)) {comment : Comment}
      {failure : Failure} {written : Except Failure Unit}
      (found : Comment.findMarked (listed.toOption.getD []) = some comment) :
    Upserted body (.commit sha)
      [⟨.call (.listCommitComments sha), listed⟩,
        ⟨.call (.updateCommitComment comment.id body), .error failure⟩,
        ⟨.call (.createCommitComment sha body), written⟩]
      (written.map fun _ => .created (.commit sha))

/-- The conversation of a run and its result. -/
inductive Conversation (dryRun : Bool) :
    List Exchange → Except Failure (Option Outcome) → Prop where
  | unsettled (failure : Failure) :
    Conversation dryRun [⟨.settings, .error failure⟩]
      (.error (failure.within "failed to load settings".toList))
  | previewed {settings : Settings} {asked : List Exchange} {details : Text} (dry : dryRun = true)
      (detailed : Detailed settings.coverageDetails asked details) :
    Conversation dryRun (⟨.settings, .ok settings⟩ :: asked) (.ok none)
  | unconnected {settings : Settings} {asked : List Exchange} {details : Text} (failure : Failure)
      (wet : dryRun = false) (detailed : Detailed settings.coverageDetails asked details) :
    Conversation dryRun
      (⟨.settings, .ok settings⟩ :: asked ++ [⟨.connect settings, .error failure⟩])
      (.error failure)
  | published {settings : Settings} {asked : List Exchange} {details : Text}
      {pulls : Except Failure (List PullRequest)} {upserted : List Exchange}
      {outcome : Except Failure Outcome} (wet : dryRun = false)
      (detailed : Detailed settings.coverageDetails asked details)
      (put : Upserted (body settings details)
        (targetOf settings.sha (pulls.toOption.getD [])) upserted outcome) :
    Conversation dryRun
      (⟨.settings, .ok settings⟩ :: asked ++
        ⟨.connect settings, .ok ()⟩ :: ⟨.call (.listPullRequests settings.sha), pulls⟩ :: upserted)
      (outcome.map some)

/-! ## What a run asks -/

variable (world : World σ ε) (s : σ)

@[simp]
theorem run_warn (failure : Failure) (fields : List (Text × Text)) (message : Text) :
    (warn failure fields message).run world s =
      ⟨(), s, [.said (.warning
        (("error".toList, failure.oneLine) :: fields ++ [("message".toList, message)]))]⟩ := rfl

@[simp]
theorem run_announceUpdate (id : Nat) (target : Target) :
    (announceUpdate id target).run world s =
      ⟨(), s, [.said (.status "GitHub".toList
        ("updating comment ".toList ++ Text.decimal id ++ " on ".toList ++ target.text))]⟩ := rfl

@[simp]
theorem run_introduce (settings : Settings) (dryRun : Bool) :
    (introduce settings dryRun).run world s =
      ⟨(), s, [.said (.heading "Session".toList),
        .said (.value "Repository".toList (settings.owner ++ ['/'] ++ settings.repo)),
        .said (.value "Commit".toList settings.sha),
        .said (.value "Mode".toList
          (if dryRun then "dry-run".toList else "post-comment".toList))]⟩ := rfl

@[simp]
theorem run_preview (body : Text) :
    (preview body).run world s =
      ⟨(), s, [.said (.heading "Dry Run: Coverage Comment".toList), .said (.plain body)]⟩ := rfl

/-- The exchanges for the details are those of a lookup of details. -/
theorem detailed_details (supplied : Option Text) :
    Detailed supplied (exchanges ((details supplied).run world s).trace)
      ((details supplied).run world s).result := by
  cases given : supplied.filter fun t => !t.isEmpty with
  | some text =>
    rw [details_of_some given]
    exact .given given
  | none =>
    rw [details_of_none given, reportedDetails, run_lookup, exchanges_answered]
    exact .reported _ given

/-- A body is put on a target by the comments that are listed there, or by none if the listing fails. -/
theorem upserted_upsert (target : Target) (body : Text) :
    Upserted body target (exchanges ((upsert target body).run world s).trace)
      ((upsert target body).run world s).result := by
  rw [upsert_eq, Plan.run_bind]
  cases target with
  | pullRequest number =>
    simp only [comments, run_lookup, exchanges_append, exchanges_answered]
    generalize world.answer (.call (.listPullRequestComments number)) s = listed
    cases found : Comment.findMarked (Option.getD listed.1.toOption []) with
    | some comment => exact .updatedPullRequest listed.1 found
    | none => exact .createdOnPullRequest listed.1 found
  | commit sha =>
    simp only [comments, run_lookup, exchanges_append, exchanges_answered]
    generalize world.answer (.call (.listCommitComments sha)) s = listed
    cases found : Comment.findMarked (Option.getD listed.1.toOption []) with
    | none => exact .createdOnCommit listed.1 found
    | some comment =>
      simp only [writeOn, change, changeOnCommit, Plan.run_bind, Plan.run_query, run_announceUpdate]
      cases (world.answer (.call (.updateCommitComment comment.id body)) listed.2.2).1 with
      | ok _ => exact .updatedOnCommit listed.1 found
      | error failure => exact .recreatedOnCommit listed.1 found

/-- What is asked for the target, and the target. -/
theorem exchanges_target (sha : Text) :
    ∃ pulls : Except Failure (List PullRequest),
      exchanges ((target sha).run world s).trace = [⟨.call (.listPullRequests sha), pulls⟩] ∧
        ((target sha).run world s).result = targetOf sha (pulls.toOption.getD []) := by
  rw [target_eq, run_lookup, exchanges_answered]
  exact ⟨_, rfl, rfl⟩

/-- What is asked to put a body where it belongs, once the run is connected or has failed to. -/
theorem exchanges_publish (settings : Settings) (body : Text) :
    (∃ failure, exchanges ((publish settings body).run world s).trace =
        [⟨.connect settings, .error failure⟩] ∧
      ((publish settings body).run world s).result = .error failure) ∨
    ∃ pulls : Except Failure (List PullRequest), ∃ upserted,
      exchanges ((publish settings body).run world s).trace =
          ⟨.connect settings, .ok ()⟩ :: ⟨.call (.listPullRequests settings.sha), pulls⟩ ::
            upserted ∧
        Upserted body (targetOf settings.sha (pulls.toOption.getD [])) upserted
          ((publish settings body).run world s).result := by
  unfold publish
  simp only [Plan.run_bind, Plan.run_query]
  cases connected : (world.answer (.connect settings) s).1 with
  | error failure => exact .inl ⟨failure, rfl, rfl⟩
  | ok _ =>
    obtain ⟨pulls, asked, resolved⟩ :=
      exchanges_target world (world.answer (.connect settings) s).2.2 settings.sha
    simp only [Plan.run_bind, Plan.run_tell, resolved]
    refine .inr ⟨pulls, _, ?_, upserted_upsert world _ _ body⟩
    simp only [exchanges_append, exchanges_said, exchanges_nil, List.nil_append, asked]
    rfl

/-- A run from the point where its settings are known. -/
def proceed (settings : Settings) (dryRun : Bool) : Plan (Except Failure (Option Outcome)) := do
  introduce settings dryRun
  let details ← details settings.coverageDetails
  let body := body settings details
  if dryRun then
    preview body
    return .ok none
  else
    let outcome ← publish settings body
    return outcome.map some

theorem post_eq (dryRun : Bool) :
    post dryRun = Plan.query .settings >>= fun
      | .error failure => pure (.error (failure.within "failed to load settings".toList))
      | .ok settings => proceed settings dryRun := rfl

/-- A run that goes on from its settings is a conversation. -/
theorem conversation_proceed (settings : Settings) (dryRun : Bool) :
    Conversation dryRun
      (⟨.settings, .ok settings⟩ :: exchanges ((proceed settings dryRun).run world s).trace)
      ((proceed settings dryRun).run world s).result := by
  have detailed := detailed_details world s settings.coverageDetails
  unfold proceed
  cases dryRun with
  | true => simpa [Plan.run_bind] using Conversation.previewed rfl detailed
  | false =>
    rcases exchanges_publish world ((details settings.coverageDetails).run world s).state settings
      (body settings ((details settings.coverageDetails).run world s).result) with
      ⟨failure, asked, result⟩ | ⟨pulls, upserted, asked, put⟩
    · simpa [Plan.run_bind, asked, result, Except.map] using
        Conversation.unconnected failure rfl detailed
    · simpa [Plan.run_bind, asked] using Conversation.published rfl detailed put

/-- Every run has a conversation, in every world. -/
theorem conversation_post (dryRun : Bool) :
    Conversation dryRun (exchanges ((post dryRun).run world s).trace)
      ((post dryRun).run world s).result := by
  rw [post_eq]
  simp only [Plan.run_bind, Plan.run_query]
  cases loaded : (world.answer .settings s).1 with
  | error failure => exact .unsettled failure
  | ok settings => exact conversation_proceed world (world.answer .settings s).2.2 settings dryRun

/-! ## Laws of a conversation -/

/-- For the details nothing but the report is asked for. -/
theorem Detailed.question_eq {supplied : Option Text} {asked : List Exchange} {details : Text}
    (detailed : Detailed supplied asked details) : ∀ e ∈ asked, e.question = .report := by
  cases detailed <;> simp

theorem Detailed.not_isCall {supplied : Option Text} {asked : List Exchange} {details : Text}
    (detailed : Detailed supplied asked details) : ∀ e ∈ asked, e.isCall = false := by
  intro e he
  simp [Exchange.isCall, detailed.question_eq e he]

theorem Detailed.findSome?_resolved? {supplied : Option Text} {asked : List Exchange}
    {details : Text} (detailed : Detailed supplied asked details) :
    asked.findSome? resolved? = none := by
  cases detailed <;> rfl

variable {body : Text} {target : Target} {asked : List Exchange} {outcome : Except Failure Outcome}

/-- The last thing asked for a target is a write, which alone can have succeeded, and what comes of it
is what came of the write. -/
theorem Upserted.concat (put : Upserted body target asked outcome) :
    ∃ (before : List Exchange) (c : Call) (written : Except Failure c.Answer) (o : Outcome),
      asked = before ++ [⟨.call c, written⟩] ∧
        (∀ e ∈ before, (e.isWrite && e.succeeded) = false) ∧
        c.outcome? target = some o ∧ outcome = written.map fun _ => o := by
  cases put with
  | updatedPullRequest | createdOnPullRequest | updatedOnCommit | createdOnCommit =>
    exact ⟨[_], _, _, _, rfl, by simp [Exchange.isWrite, Call.body?], rfl, rfl⟩
  | recreatedOnCommit =>
    exact ⟨[_, _], _, _, _, rfl, by simp [Exchange.isWrite, Exchange.succeeded, Call.body?], rfl, rfl⟩

theorem Upserted.isCall (put : Upserted body target asked outcome) :
    ∀ e ∈ asked, e.isCall = true := by
  cases put <;> simp [Exchange.isCall]

variable {dryRun : Bool} {result : Except Failure (Option Outcome)}

/-- A run makes no call and has no outcome, or it ends with a write on the target that was resolved,
which alone can have succeeded, and the result is what came of it. -/
theorem Conversation.quiet_or_concat (talk : Conversation dryRun asked result) :
    ((∀ e ∈ asked, e.isCall = false) ∧ ∀ o, result ≠ .ok (some o)) ∨
      ∃ (before : List Exchange) (c : Call) (written : Except Failure c.Answer) (target : Target)
        (o : Outcome), asked = before ++ [⟨.call c, written⟩] ∧
          (∀ e ∈ before, (e.isWrite && e.succeeded) = false) ∧
          asked.findSome? resolved? = some target ∧ c.outcome? target = some o ∧
          result = written.map fun _ => some o := by
  cases talk with
  | unsettled failure => exact .inl ⟨by simp [Exchange.isCall], by simp⟩
  | previewed _ detailed =>
    refine .inl ⟨?_, by simp⟩
    rintro e (_ | ⟨_, he⟩)
    · rfl
    · exact detailed.not_isCall e he
  | unconnected _ _ detailed =>
    refine .inl ⟨?_, by simp⟩
    intro e he
    simp only [List.mem_append, List.mem_cons, List.not_mem_nil, or_false] at he
    rcases he with (rfl | he) | rfl
    · rfl
    · exact detailed.not_isCall e he
    · rfl
  | @published settings asked _ pulls _ _ _ detailed put =>
    obtain ⟨before, c, written, o, rfl, unwritten, named, rfl⟩ := put.concat
    refine .inr ⟨⟨.settings, .ok settings⟩ :: asked ++ ⟨.connect settings, .ok ()⟩ ::
      ⟨.call (.listPullRequests settings.sha), pulls⟩ :: before, c, written, _, o, by simp, ?_, ?_,
      named, ?_⟩
    · intro e he
      simp only [List.mem_append, List.mem_cons] at he
      rcases he with (rfl | he) | rfl | rfl | he
      · rfl
      · rw [Exchange.isWrite_eq_false (detailed.not_isCall e he), Bool.false_and]
      · rfl
      · rfl
      · exact unwritten e he
    · show (asked ++ _).findSome? resolved? = _
      rw [List.findSome?_append, detailed.findSome?_resolved?]
      rfl
    · cases written <;> rfl

/-- Without settings, or in a dry run, nothing is asked but the settings and the report. -/
theorem Conversation.offline (talk : Conversation dryRun asked result)
    (off : dryRun = true ∨ ∃ failure, ⟨.settings, .error failure⟩ ∈ asked) :
    ∀ e ∈ asked, e.question = .settings ∨ e.question = .report := by
  cases talk with
  | unsettled failure => simp
  | previewed _ detailed =>
    intro e he
    rcases List.mem_cons.mp he with rfl | he
    · exact .inl rfl
    · exact .inr (detailed.question_eq e he)
  | unconnected _ wet detailed =>
    obtain ⟨failure, h⟩ := off.resolve_left (by simp [wet])
    simp only [List.mem_append, List.mem_cons, List.not_mem_nil, or_false] at h
    rcases h with (h | h) | h
    · cases h
    · cases detailed.question_eq _ h
    · cases h
  | published wet detailed put =>
    obtain ⟨failure, h⟩ := off.resolve_left (by simp [wet])
    simp only [List.mem_append, List.mem_cons] at h
    rcases h with (h | h) | h | h | h
    · cases h
    · cases detailed.question_eq _ h
    · cases h
    · cases h
    · cases put.isCall _ h

/-- A failed connection is the result, and no call is made. -/
theorem Conversation.refused (talk : Conversation dryRun asked result) {settings : Settings}
    {failure : Failure} (refused : ⟨.connect settings, .error failure⟩ ∈ asked) :
    (∀ e ∈ asked, e.isCall = false) ∧ result = .error failure := by
  have split := talk.quiet_or_concat
  cases talk with
  | unsettled _ => simp at refused
  | previewed _ detailed =>
    rcases List.mem_cons.mp refused with h | h
    · cases h
    · cases detailed.question_eq _ h
  | unconnected _ _ detailed =>
    simp only [List.mem_append, List.mem_cons, List.not_mem_nil, or_false] at refused
    rcases refused with (h | h) | h
    · cases h
    · cases detailed.question_eq _ h
    · cases h
      rcases split with ⟨quiet, -⟩ | ⟨before, c, written, -, -, h, -⟩
      · exact ⟨quiet, rfl⟩
      · cases (List.append_inj' h rfl).2
  | published _ detailed put =>
    simp only [List.mem_append, List.mem_cons] at refused
    rcases refused with (h | h) | h | h | h
    · cases h
    · cases detailed.question_eq _ h
    · cases h
    · cases h
    · cases put.isCall _ h

/-- In a conversation one write succeeds at the most. -/
theorem Conversation.length_filter_le (talk : Conversation dryRun asked result) :
    (asked.filter fun e => e.isWrite && e.succeeded).length ≤ 1 := by
  rcases talk.quiet_or_concat with ⟨quiet, -⟩ | ⟨before, c, written, _, _, rfl, unwritten, -⟩
  · rw [List.filter_eq_nil_iff.mpr fun e he => by simp [Exchange.isWrite_eq_false (quiet e he)]]
    exact Nat.zero_le _
  · rw [List.filter_append, List.filter_eq_nil_iff.mpr (by simpa using unwritten)]
    exact List.length_filter_le _ _

/-- A run has an outcome exactly if the last thing it asked is a call that succeeded, and the outcome
is the one the call stands for on the target that was resolved. -/
theorem Conversation.result_eq_iff (talk : Conversation dryRun asked result) (o : Outcome) :
    result = .ok (some o) ↔ ∃ (c : Call) (answer : c.Answer) (target : Target),
      asked.getLast? = some ⟨.call c, .ok answer⟩ ∧ asked.findSome? resolved? = some target ∧
        c.outcome? target = some o := by
  rcases talk.quiet_or_concat with ⟨quiet, none⟩ | ⟨before, c, written, target, o', asked_eq, -,
    resolved, named, rfl⟩
  · refine ⟨fun h => absurd h (none o), ?_⟩
    rintro ⟨c, answer, target, last, -⟩
    cases quiet _ (List.mem_of_getLast? last)
  · constructor
    · intro h
      cases written with
      | error _ => cases h
      | ok answer =>
        cases h
        exact ⟨c, answer, target, asked_eq ▸ List.getLast?_concat, resolved, named⟩
    · rintro ⟨c', answer, target', last, resolved', named'⟩
      rw [asked_eq, List.getLast?_concat] at last
      cases last
      rw [resolved] at resolved'
      cases resolved'
      rw [named] at named'
      cases named'
      rfl

/-- If the last thing that was asked is a call that failed, its failure is the result. -/
theorem Conversation.result_of_failed (talk : Conversation dryRun asked result) {c : Call}
    {failure : Failure} (last : asked.getLast? = some ⟨.call c, .error failure⟩) :
    result = .error failure := by
  rcases talk.quiet_or_concat with ⟨quiet, -⟩ | ⟨before, c, written, target, o', rfl, -, -, -, rfl⟩
  · cases quiet _ (List.mem_of_getLast? last)
  · rw [List.getLast?_concat] at last
    cases last
    rfl

/-- In every world a run keeps to the protocol. What it asks follows `Conversation`; a dry run and a run
without settings ask nothing of the host; a failed connection is the result and ends the run; at most one
write succeeds; the run has an outcome exactly if the last call, a write, succeeds, and then the outcome
names this write and the target that was resolved; and if the last call fails, its failure is the
result. -/
theorem post_keeps_protocol (world : World σ ε) (s : σ) (dryRun : Bool) :
    let r := (post dryRun).run world s
    let asked := exchanges r.trace
    Conversation dryRun asked r.result ∧
      ((dryRun = true ∨ ∃ failure, ⟨.settings, .error failure⟩ ∈ asked) →
        ∀ e ∈ asked, e.question = .settings ∨ e.question = .report) ∧
      (∀ settings failure, ⟨.connect settings, .error failure⟩ ∈ asked →
        (∀ e ∈ asked, e.isCall = false) ∧ r.result = .error failure) ∧
      (asked.filter fun e => e.isWrite && e.succeeded).length ≤ 1 ∧
      (∀ o, r.result = .ok (some o) ↔ ∃ (c : Call) (answer : c.Answer) (target : Target),
        asked.getLast? = some ⟨.call c, .ok answer⟩ ∧ asked.findSome? resolved? = some target ∧
          c.outcome? target = some o) ∧
      ∀ (c : Call) (failure : Failure),
        asked.getLast? = some ⟨.call c, .error failure⟩ → r.result = .error failure := by
  have talk := conversation_post world s dryRun
  exact ⟨talk, talk.offline, fun _ _ => talk.refused, talk.length_filter_le, talk.result_eq_iff,
    fun _ _ => talk.result_of_failed⟩

/-- Settings for a host at this address. -/
def settingsFor (apiBase sha : Text) : Settings where
  token := "t".toList
  apiBase := apiBase
  owner := "o".toList
  repo := "r".toList
  sha := sha
  coverageTotal := none
  coverageDetails := none
  minCoverage := Settings.defaultMinCoverage

/-- A script for a commit on which the comment cannot be changed, so that a new one is written. This comes of
that. There is no report, and no list of pull requests either. -/
def troubled (written : Except Failure Unit) : Script where
  settings := .ok (settingsFor "http://[::1]".toList "c".toList)
  report := .error (.plain "no profile".toList)
  host := {
    connection := .ok ()
    pullRequests := .error (.plain "unlisted".toList)
    pullRequestComments := .ok []
    createdOnPullRequest := .ok ()
    updatedOnPullRequest := .ok ()
    commitComments := .ok [⟨7, marker⟩]
    createdOnCommit := written
    updatedOnCommit := .error (.plain "locked".toList) }

/-- The body in a run by this script. -/
def troubledBody : Text :=
  Posting.body (settingsFor "http://[::1]".toList "c".toList) detailsUnavailable

/-- The exchanges of a run whose report and first write fail, up to its second write. -/
theorem exchanges_troubled (written : Except Failure Unit) :
    let settings := settingsFor "http://[::1]".toList "c".toList
    exchanges ((post false).run (troubled written).world ()).trace =
      [⟨.settings, .ok settings⟩, ⟨.report, .error (.plain "no profile".toList)⟩, ⟨.connect settings, .ok ()⟩,
        ⟨.call (.listPullRequests "c".toList), .error (.plain "unlisted".toList)⟩,
        ⟨.call (.listCommitComments "c".toList), .ok [⟨7, marker⟩]⟩,
        ⟨.call (.updateCommitComment 7 troubledBody), .error (.plain "locked".toList)⟩,
        ⟨.call (.createCommitComment "c".toList troubledBody), written⟩] := by
  intro settings
  rfl

/-- The outcome is that of the second write, whether it succeeds or fails. -/
theorem post_keeps_protocol_troubled :
    let r (written : Except Failure Unit) := (post false).run (troubled written).world ()
    (r (.ok ())).result = .ok (some (.created (.commit "c".toList))) ∧
      (r (.error (.plain "down".toList))).result = .error (.plain "down".toList) := by
  intro r
  obtain ⟨-, -, -, -, outcome, -⟩ := post_keeps_protocol (troubled (.ok ())).world () false
  obtain ⟨-, -, -, -, -, failed⟩ :=
    post_keeps_protocol (troubled (.error (.plain "down".toList))).world () false
  simp only [exchanges_troubled] at outcome failed
  exact ⟨(outcome _).mpr ⟨.createCommitComment "c".toList troubledBody, (), .commit "c".toList, rfl, rfl, rfl⟩,
    failed (.createCommitComment "c".toList troubledBody) (.plain "down".toList) rfl⟩

end Posting

end CoverageNote
