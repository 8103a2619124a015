import CoverageNote.Proofs.Session

/-!
# The comment that is kept up to date

Every body holds the marker, so a comment of this tool is found by later runs, and a run changes the first
one it finds. Therefore one comment is kept up to date. The first marked comment on a subject stays the
first one, whatever happens, until it is deleted (`SessionStep.leads_after`), and as long as nothing fails
a run that is repeated finds what it has written and leaves it as it is (`SessionStep.postRun_again`).

A run on a host where nothing fails is a function on the host, `Store.upsert`, and all that is said of
repeated runs are laws of this function : it has written the comment that it will find
(`WellFormed.findMarked_upsert`), so to carry it out again changes nothing
(`WellFormed.upsert_upsert`).
-/

namespace CoverageNote

namespace Store

variable {s t : Store} {settings : Except Failure Settings} {report : Except Failure Text}
  {dryRun missed : Bool} {result : Except Failure (Option Outcome)} {u body : Text} {id : Nat}

/-! ## The first marked comment of a subject -/

/-- The comment with this id is on the subject and holds the marker, and no comment before it does. -/
def Leads (s : Store) (u : Text) (id : Nat) : Prop :=
  ∃ before body after, s.commentsOn u = before ++ ⟨id, body⟩ :: after ∧
    body.mentions marker = true ∧ ∀ c ∈ before, c.holds marker = false

/-- It is the one that a search for the marker finds. -/
theorem firstId_eq_some_iff : s.firstId u = some id ↔ s.Leads u id := by
  constructor
  · intro first
    obtain ⟨c, found, rfl⟩ := Option.map_eq_some_iff.mp first
    obtain ⟨before, after, split, hc, unmarked⟩ := exists_of_findMarked found
    exact ⟨before, c.body, after, split, hc, unmarked⟩
  · rintro ⟨before, body, after, split, marked, unmarked⟩
    unfold firstId
    rw [split, findMarked_append_cons (c := ⟨id, body⟩) unmarked marked]
    rfl

theorem Posted.firstId_eq_some (posted : Posted settings report dryRun s missed result t)
    (wf : s.WellFormed) (first : s.firstId u = some id) : t.firstId u = some id := by
  obtain rfl | ⟨v, body, marked, ⟨c, found, rfl⟩ | rfl⟩ := posted.state_cases
  · exact first
  · exact wf.firstId_setBody_of_found first found marked
  · exact firstId_add_of_some first v body

/-- The comment that a run updates is the first marked one on its target. -/
theorem Rewritten.firstId_eq_some {target : Target} (h : s.Rewritten t target id body) :
    s.firstId target.subject = some id := by
  obtain ⟨before, old, after, split, marked, unmarked, -⟩ := h.place
  exact firstId_eq_some_iff.mpr ⟨before, old, after, split, marked, unmarked⟩

/-! ## Putting a body on a subject -/

/-- The host after a body has been put on a subject : into the first marked comment, or into a new one if
there is none. -/
def upsert (s : Store) (u body : Text) : Store :=
  match s.firstId u with
  | some id => s.setBody id body
  | none => s.add u body

theorem WellFormed.upsert (h : s.WellFormed) (u body : Text) : (s.upsert u body).WellFormed := by
  unfold Store.upsert
  cases s.firstId u with
  | some id => exact h.setBody id body
  | none => exact h.add u body

/-- The body has gone into the comment that is found from then on. -/
theorem WellFormed.findMarked_upsert (h : s.WellFormed) (marked : body.mentions marker = true) :
    Comment.findMarked ((s.upsert u body).commentsOn u) =
      some ⟨(s.firstId u).getD (s.lastId + 1), body⟩ := by
  unfold Store.upsert
  cases first : s.firstId u with
  | some id =>
    obtain ⟨c, found, rfl⟩ := Option.map_eq_some_iff.mp first
    obtain ⟨before, after, split, -, unmarked⟩ := exists_of_findMarked found
    show Comment.findMarked ((s.setBody c.id body).commentsOn u) = some ⟨c.id, body⟩
    rw [h.commentsOn_setBody_self split]
    exact findMarked_append_cons unmarked marked
  | none =>
    have unmarked : ∀ c ∈ s.commentsOn u, c.holds marker = false := by
      simpa [Comment.findMarked, Comment.find?] using firstId_eq_none_iff.mp first
    show Comment.findMarked ((s.add u body).commentsOn u) = some ⟨s.lastId + 1, body⟩
    rw [commentsOn_add_self]
    exact findMarked_append_cons unmarked marked

theorem WellFormed.firstId_upsert (h : s.WellFormed) (marked : body.mentions marker = true) :
    (s.upsert u body).firstId u = some ((s.firstId u).getD (s.lastId + 1)) :=
  congrArg (Option.map Comment.id) (h.findMarked_upsert marked)

/-- To put the same body on the subject again changes nothing. -/
theorem WellFormed.upsert_upsert (h : s.WellFormed) (marked : body.mentions marker = true) :
    (s.upsert u body).upsert u body = s.upsert u body := by
  have kept := (h.upsert u body).setBody_eq_self (mem_of_findMarked (h.findMarked_upsert marked))
  conv_lhs => rw [Store.upsert, h.firstId_upsert marked]
  exact kept

theorem upsert_failing (s : Store) (u body : Text) : (s.upsert u body).failing = s.failing := by
  unfold upsert
  cases s.firstId u <;> rfl

theorem upsert_pulls (s : Store) (u body : Text) : (s.upsert u body).pulls = s.pulls := by
  unfold upsert
  cases s.firstId u <;> rfl

/-! ## Hosts where nothing fails -/

theorem fails_of_failing_eq_nil (working : s.failing = []) (c : Call) : s.fails c = false := by
  simp [fails, working]

/-- A body that is put on a subject leads no run to another target. -/
theorem targetFor_upsert (working : s.failing = []) (u body sha : Text) :
    (s.upsert u body).targetFor sha = s.targetFor sha := by
  have after : (s.upsert u body).failing = [] := (upsert_failing s u body).trans working
  simp [targetFor, fails_of_failing_eq_nil working, fails_of_failing_eq_nil after, upsert_pulls]

/-- Where nothing fails, a run puts its body on its target. -/
theorem Posted.eq_upsert {given : Settings}
    (posted : Posted (.ok given) report false s missed result t) (working : s.failing = []) :
    let target := s.targetFor given.sha
    result = .ok (some (target.outcome (s.firstId target.subject))) ∧
      t = s.upsert target.subject
        (Posting.body given (Posting.detailsFrom given.coverageDetails report)) := by
  intro target
  have works := fails_of_failing_eq_nil working
  cases posted with
  | unsettled loaded => cases loaded
  | previewed _ dry => cases dry
  | published loaded _ put =>
    cases loaded
    cases put with
    | @updated comment heard found _ =>
      have first : s.firstId target.subject = some comment.id :=
        congrArg (Option.map Comment.id) found
      rw [Store.upsert, first]
      exact ⟨rfl, rfl⟩
    | created heard absent _ =>
      have first : s.firstId target.subject = none := firstId_eq_none_iff.mpr absent
      rw [Store.upsert, first]
      exact ⟨rfl, rfl⟩
    | createdUnseen unseen => simp [works] at unseen
    | failed failure h => simp [works] at h

end Store

namespace SessionStep

theorem firstId_perform {s : Store} {u : Text} {id : Nat} (wf : s.WellFormed)
    (first : s.firstId u = some id) {step : SessionStep} (kept : step ≠ .deleteComment id) :
    (step.perform s).2.firstId u = some id := by
  cases step with
  | post env report dryRun => exact (posted_postRun env report dryRun s).firstId_eq_some wf first
  | setPulls pulls => exact first
  | addComment on body => exact Store.firstId_add_of_some first on body
  | deleteComment other => exact Store.firstId_delete_of_ne first fun h => kept (h ▸ rfl)
  | setFailing names => exact first

theorem firstId_after {s : Store} {u : Text} {id : Nat} (wf : s.WellFormed)
    (first : s.firstId u = some id) {steps : List SessionStep}
    (kept : .deleteComment id ∉ steps) : (s.after steps).firstId u = some id := by
  induction steps generalizing s with
  | nil => exact first
  | cons step steps ih =>
    rw [List.mem_cons, not_or] at kept
    rw [Store.after_cons]
    exact ih (wf.perform step) (firstId_perform wf first (Ne.symm kept.1)) kept.2

/-- At any moment of a session, the first marked comment on a subject stays on it, marked and the first
one, through all further steps but its own deletion. A run after them that updates a comment on the
subject updates this one. -/
theorem leads_after {steps more : List SessionStep} {u : Text} {id : Nat}
    (leads : (Store.empty.after steps).Leads u id) (kept : .deleteComment id ∉ more) :
    (Store.empty.after (steps ++ more)).Leads u id ∧
      ∀ (env : Environment) (report : Except Failure Text) (dryRun : Bool) (target : Target)
        (updated : Nat),
        (postRun env report dryRun (Store.empty.after (steps ++ more))).result =
            .ok (some (.updated target updated)) →
          target.subject = u → updated = id := by
  have first : (Store.empty.after (steps ++ more)).firstId u = some id := by
    rw [Store.after_append]
    exact firstId_after (Store.wellFormed_after steps) (Store.firstId_eq_some_iff.mpr leads) kept
  refine ⟨Store.firstId_eq_some_iff.mp first, ?_⟩
  rintro env report dryRun target updated result rfl
  have posted := posted_postRun env report dryRun (Store.empty.after (steps ++ more))
  obtain ⟨_, -, -, rewritten⟩ := posted.rewritten (Store.wellFormed_after _) result
  exact Option.some.inj (rewritten.firstId_eq_some.symm.trans first)

/-- The first of two marked comments stays the one that is updated, also after the other is gone. -/
theorem leads_after_duplicate :
    let steps : List SessionStep := [.post localEnvironment (.ok []) false]
    let more : List SessionStep := [.setFailing ["list_commit_comments".toList],
      .post localEnvironment (.ok []) false, .addComment "commit:c".toList marker,
      .deleteComment 2, .setFailing []]
    (Store.empty.after steps).Leads "commit:c".toList 1 ∧ .deleteComment 1 ∉ more ∧
      (Store.empty.after (steps ++ more)).Leads "commit:c".toList 1 ∧
      ∃ updated, (postRun localEnvironment (.ok []) false
          (Store.empty.after (steps ++ more))).result =
            .ok (some (.updated (.commit "c".toList) updated)) ∧ updated = 1 := by
  intro steps more
  have leads : (Store.empty.after steps).Leads "commit:c".toList 1 :=
    Store.firstId_eq_some_iff.mp (by decide +kernel)
  have kept : .deleteComment 1 ∉ more := by simp [more]
  obtain ⟨still, updates⟩ := leads_after leads kept
  have result : (postRun localEnvironment (.ok []) false
      (Store.empty.after (steps ++ more))).result =
        .ok (some (.updated (.commit "c".toList) 1)) := by decide +kernel
  exact ⟨leads, kept, still, 1, result, updates _ _ _ _ 1 result rfl⟩

/-! ## Runs that are repeated -/

/-- Where nothing fails, a run puts its body on its target. -/
theorem postRun_of_working {s : Store} (working : s.failing = []) {env : Environment}
    {settings : Settings} (loaded : Settings.ofEnvironment env = .ok settings)
    (report : Except Failure Text) :
    let target := s.targetFor settings.sha
    (postRun env report false s).result =
        .ok (some (target.outcome (s.firstId target.subject))) ∧
      (postRun env report false s).state = s.upsert target.subject
        (Posting.body settings (Posting.detailsFrom settings.coverageDetails report)) := by
  have posted := posted_postRun env report false s
  rw [loaded] at posted
  exact posted.eq_upsert working

/-- Where nothing fails, a run that is carried out again updates the comment that it has updated or created
before, and changes nothing. However often it is repeated, the host stays as the first run has left it. -/
theorem postRun_again {s : Store} (reachable : s.Reachable) (working : s.failing = [])
    {env : Environment} {settings : Settings} (loaded : Settings.ofEnvironment env = .ok settings)
    (report : Except Failure Text) :
    let first := postRun env report false s
    let second := postRun env report false first.state
    (∃ target id, second.result = .ok (some (.updated target id)) ∧
      (first.result = .ok (some (.updated target id)) ∨
        first.result = .ok (some (.created target)) ∧ ∃ body,
          first.state.commentsOn target.subject =
            s.commentsOn target.subject ++ [⟨id, body⟩])) ∧
    second.state = first.state ∧
    ∀ n, s.after (List.replicate (n + 1) (.post env report false)) = first.state := by
  intro first second
  have wf := reachable.wellFormed
  let target := s.targetFor settings.sha
  let body := Posting.body settings (Posting.detailsFrom settings.coverageDetails report)
  have marked : body.mentions marker = true := Posting.mentions_marker_body _ _
  obtain ⟨result, state⟩ : first.result = .ok (some (target.outcome (s.firstId target.subject))) ∧
      first.state = s.upsert target.subject body := postRun_of_working working loaded report
  -- The second run starts on the host that the first has left, where it finds the same target.
  have again : second.result = .ok (some (target.outcome (first.state.firstId target.subject))) ∧
      second.state = first.state.upsert target.subject body := by
    have working' : first.state.failing = [] := by rw [state, Store.upsert_failing, working]
    have same : first.state.targetFor settings.sha = target := by
      rw [state, Store.targetFor_upsert working]
    have ran := postRun_of_working working' loaded report
    rwa [same] at ran
  have stays : second.state = first.state := by
    rw [again.2, state, wf.upsert_upsert marked]
  refine ⟨⟨target, (s.firstId target.subject).getD (s.lastId + 1), ?_, ?_⟩, stays, fun n => ?_⟩
  · rw [again.1, state, wf.firstId_upsert marked]
    rfl
  · rw [result, state]
    cases found : s.firstId target.subject with
    | some id => exact .inl rfl
    | none =>
      refine .inr ⟨rfl, body, ?_⟩
      rw [Store.upsert, found]
      exact Store.commentsOn_add_self s _ _
  · have step : first.state.after [.post env report false] = first.state := stays
    rw [List.replicate_succ, Store.after_cons]
    show first.state.after _ = first.state
    induction n with
    | zero => rfl
    | succ n ih => rw [List.replicate_succ', Store.after_append, ih, step]

/-- The settings of the environment for a host on the same machine. -/
def localSettings : Settings where
  token := "t".toList
  apiBase := "http://[::1]".toList
  owner := "o".toList
  repo := "r".toList
  sha := "c".toList
  coverageTotal := none
  coverageDetails := none
  minCoverage := Settings.defaultMinCoverage

/-- A run without a report, next to comments of others. -/
theorem postRun_again_beside :
    let s := Store.empty.after [.addComment "commit:c".toList "hi".toList,
      .addComment "pull:7".toList marker]
    let report : Except Failure Text := .error (.plain "no go".toList)
    let first := postRun localEnvironment report false s
    s.Reachable ∧ s.failing = [] ∧ Settings.ofEnvironment localEnvironment = .ok localSettings ∧
      first.result = .ok (some (.created (.commit "c".toList))) ∧
      (postRun localEnvironment report false first.state).state = first.state := by
  intro s report first
  have reachable : s.Reachable := ⟨_, rfl⟩
  have loaded : Settings.ofEnvironment localEnvironment = .ok localSettings := by decide +kernel
  exact ⟨reachable, rfl, loaded, by decide +kernel, (postRun_again reachable rfl loaded report).2.1⟩

end SessionStep

end CoverageNote
