import CoverageNote.Proofs.Session
import Mathlib.Data.List.Induction

/-!
# How many comments of this tool are on a subject

A run looks for a marked comment before it writes a new one, so there should be at most one on each
subject. That is so as long as runs find what is there (`Store.Posted.marks_le`) : a run adds a marked
comment to a subject that has one only if it missed it, because the listing of the comments or the change
of a comment on a commit failed.

`SessionStep.marks_le_one_or_duplicated` follows a whole session. If nobody else writes marked comments,
each subject has at most one, unless a run has added a second one in this way (`SessionStep.Duplicated`).
That does happen (`SessionStep.not_forall_marks_le_one`), and the run is a success.

Whatever others write, each marked comment beyond the first has its cause (`SessionStep.marks_le_one_add`) :
somebody else has put it there (`SessionStep.foreignMarks`), or a run that missed what was there has
created it (`SessionStep.blindMarks`).
-/

namespace CoverageNote

namespace Store

variable {s t : Store} {settings : Except Failure Settings} {report : Except Failure Text}
  {dryRun missed : Bool} {result : Except Failure (Option Outcome)}

theorem Extended.marks_le {target : Target} {body : Text} (h : s.Extended t target body) (u : Text) :
    t.marks u ≤ s.marks u ∨ target.subject = u ∧ t.marks u ≤ s.marks u + 1 := by
  by_cases hu : u = target.subject
  · refine .inr ⟨hu.symm, ?_⟩
    unfold marks
    rw [hu, h.place, List.countP_append]
    exact Nat.add_le_add_left List.countP_le_length _
  · unfold marks
    rw [h.elsewhere u hu]
    exact .inl (Nat.le_refl _)

theorem Put.marks_le {target : Target} {body : Text} {outcome : Except Failure Outcome}
    (put : Put s target body missed outcome t) (wf : s.WellFormed) (u : Text) :
    t.marks u ≤ s.marks u ∨ (s.marks u = 0 ∧ t.marks u ≤ 1) ∨
      (1 ≤ s.marks u ∧ missed = true ∧ outcome = .ok (.created target) ∧ target.subject = u) := by
  cases put with
  | updated heard found works => exact .inl (wf.marks_setBody_le found body u)
  | created heard absent works =>
    rcases (extended_add s target body).marks_le u with h | ⟨rfl, h⟩
    · exact .inl h
    · have none := findMarked_eq_none_iff.mp absent
      exact .inr (.inl ⟨none, by rwa [none] at h⟩)
  | createdUnseen unseen =>
    rcases (extended_add s target body).marks_le u with h | ⟨hu, h⟩
    · exact .inl h
    rcases Nat.eq_zero_or_pos (s.marks u) with none | some
    · exact .inr (.inl ⟨none, by rwa [none] at h⟩)
    · exact .inr (.inr ⟨some, rfl, rfl, hu⟩)
  | failed => exact .inl (Nat.le_refl _)

/-- A run adds a marked comment to a subject only if there was none, or if it missed what was there. -/
theorem Posted.marks_le (posted : Posted settings report dryRun s missed result t)
    (wf : s.WellFormed) (u : Text) :
    t.marks u ≤ s.marks u ∨ (s.marks u = 0 ∧ t.marks u ≤ 1) ∨
      (1 ≤ s.marks u ∧ missed = true ∧
        ∃ target, result = .ok (some (.created target)) ∧ target.subject = u) := by
  cases posted with
  | unsettled _ => exact .inl (Nat.le_refl _)
  | previewed _ _ => exact .inl (Nat.le_refl _)
  | published _ _ put =>
    rcases put.marks_le wf u with h | h | ⟨some, missed, rfl, hu⟩
    · exact .inl h
    · exact .inr (.inl h)
    · exact .inr (.inr ⟨some, missed, _, rfl, hu⟩)

/-- A run writes at most one comment. -/
theorem Posted.marks_le_succ (posted : Posted settings report dryRun s missed result t)
    (wf : s.WellFormed) (u : Text) : t.marks u ≤ s.marks u + 1 := by
  obtain rfl | ⟨v, body, -, ⟨c, found, rfl⟩ | rfl⟩ := posted.state_cases
  · exact Nat.le_succ _
  · exact Nat.le_succ_of_le (wf.marks_setBody_le found body u)
  · rw [marks_add]
    split <;> omega

/-- A run that missed nothing creates a comment only where there is no marked one. -/
theorem Posted.marks_eq_zero (posted : Posted settings report dryRun s missed result t)
    {target : Target} (created : result = .ok (some (.created target))) (seen : missed = false) :
    s.marks target.subject = 0 := by
  cases posted with
  | unsettled _ => cases created
  | previewed _ _ => cases created
  | published _ _ put =>
    cases put with
    | updated => cases created
    | created heard absent works =>
      cases created
      exact findMarked_eq_none_iff.mp absent
    | createdUnseen => cases seen
    | failed => cases created

end Store

namespace SessionStep

/-- In the session a run has written a new comment on the subject although a marked one was there, and it
had missed that one. -/
def Duplicated (steps : List SessionStep) (u : Text) : Prop :=
  ∃ before env report dryRun after target,
    steps = before ++ .post env report dryRun :: after ∧ target.subject = u ∧
      1 ≤ (Store.empty.after before).marks u ∧
      (postRun env report dryRun (Store.empty.after before)).result =
        .ok (some (.created target)) ∧
      (exchanges (postRun env report dryRun (Store.empty.after before)).trace).any
        Exchange.missed = true

theorem Duplicated.concat {steps : List SessionStep} {u : Text} (h : Duplicated steps u)
    (step : SessionStep) : Duplicated (steps ++ [step]) u := by
  obtain ⟨before, env, report, dryRun, after, target, rfl, h⟩ := h
  exact ⟨before, env, report, dryRun, after ++ [step], target, by simp, h⟩

/-- If nobody else writes marked comments, then after every session each subject has at most one marked
comment, unless a run of the session has missed one there and written another. -/
theorem marks_le_one_or_duplicated (steps : List SessionStep)
    (unmarked : ∀ on body, .addComment on body ∈ steps → body.mentions marker = false) (u : Text) :
    (Store.empty.after steps).marks u ≤ 1 ∨ Duplicated steps u := by
  induction steps using List.reverseRecOn with
  | nil => exact .inl (Nat.zero_le _)
  | append_singleton steps step ih =>
    -- Once a run has duplicated a comment that stays said, so only the other case has to look at the step.
    rcases ih fun on body h => unmarked on body (List.mem_append_left _ h) with h | h
    · have wf : (Store.empty.after steps).WellFormed := Store.Reachable.wellFormed ⟨steps, rfl⟩
      rw [Store.after_append, Store.after_cons, Store.after_nil]
      cases step with
      | post env report dryRun =>
        rcases (posted_postRun env report dryRun (Store.empty.after steps)).marks_le wf u with
          le | ⟨-, le⟩ | ⟨some, missed, target, created, hu⟩
        · exact .inl (Nat.le_trans le h)
        · exact .inl le
        · exact .inr ⟨steps, env, report, dryRun, [], target, rfl, hu, some, created, missed⟩
      | setPulls pulls => exact .inl h
      | addComment on body =>
        left
        show (Store.add _ on body).marks u ≤ 1
        rw [Store.marks_add, unmarked on body (by simp)]
        simpa using h
      | deleteComment id => exact .inl (Nat.le_trans (Store.marks_delete_le _ id u) h)
      | setFailing names => exact .inl h
    · exact .inr (h.concat step)

/-- Two runs with a comment of somebody else between them leave one marked comment. -/
theorem marks_le_one_or_duplicated_again :
    let steps : List SessionStep := [.post localEnvironment (.ok []) false,
      .addComment "commit:c".toList "hi".toList, .post localEnvironment (.ok []) false]
    (∀ on body, .addComment on body ∈ steps → body.mentions marker = false) ∧
      ((Store.empty.after steps).marks "commit:c".toList ≤ 1 ∨
        Duplicated steps "commit:c".toList) := by
  intro steps
  have unmarked : ∀ on body, .addComment on body ∈ steps → body.mentions marker = false := by
    intro on body h
    simp only [steps, List.mem_cons, List.not_mem_nil, or_false, reduceCtorEq, false_or,
      addComment.injEq] at h
    rw [h.2]
    decide
  exact ⟨unmarked, marks_le_one_or_duplicated steps unmarked _⟩

/-- A run can be a success and leave two marked comments on a subject, also if nobody else writes marked
comments : the second of two runs, once the comments on the commit cannot be listed. -/
theorem not_forall_marks_le_one :
    ¬∀ (steps : List SessionStep) (env : Environment) (report : Except Failure Text)
        (dryRun : Bool) (o : Outcome),
      (∀ on body, .addComment on body ∈ steps → body.mentions marker = false) →
      (postRun env report dryRun (Store.empty.after steps)).result = .ok (some o) →
      ∀ u, (postRun env report dryRun (Store.empty.after steps)).state.marks u ≤ 1 := by
  intro h
  have two : ¬(postRun localEnvironment (.ok []) false (Store.empty.after
      [.post localEnvironment (.ok []) false,
        .setFailing ["list_commit_comments".toList]])).state.marks "commit:c".toList ≤ 1 := by
    decide +kernel
  exact two (h _ _ _ _ (.created (.commit "c".toList)) (by simp) (by decide +kernel) _)

/-! ## What each further mark comes from -/

/-- Whether somebody else puts a marked comment on the subject. -/
def addsMark (u : Text) : SessionStep → Bool
  | addComment on body => on = u && body.mentions marker
  | _ => false

/-- Whether a run has created a comment on the subject after it had missed what was there. -/
def createdBlind (u : Text) (r : PostRun) : Bool :=
  match r.result with
  | .ok (some (.created target)) =>
    target.subject = u && (exchanges r.trace).any Exchange.missed
  | _ => false

/-- The number of marked comments that others put on the subject. -/
def foreignMarks (u : Text) (steps : List SessionStep) : Nat :=
  steps.countP (addsMark u)

/-- The number of runs that have created a comment on the subject after they had missed what was there,
among the runs of a session. -/
def blindMarks (u : Text) (done : List (Option PostRun × Store)) : Nat :=
  done.countP fun r => r.1.any (createdBlind u)

theorem createdBlind_of_result {u : Text} {r : PostRun} {target : Target}
    (created : r.result = .ok (some (.created target))) (hu : target.subject = u)
    (missed : (exchanges r.trace).any Exchange.missed = true) : createdBlind u r = true := by
  simp [createdBlind, created, hu, missed]

/-- A step raises the number of marked comments on a subject above one only by a mark of somebody else or
by a run that missed what was there. -/
theorem marks_perform_le {s : Store} (wf : s.WellFormed) (step : SessionStep) (u : Text) :
    (step.perform s).2.marks u ≤ max 1 (s.marks u) + (if addsMark u step then 1 else 0) +
      if (step.perform s).1.any (createdBlind u) then 1 else 0 := by
  have atLeast : s.marks u ≤ max 1 (s.marks u) := Nat.le_max_right ..
  have one : 1 ≤ max 1 (s.marks u) := Nat.le_max_left ..
  cases step with
  | post env report dryRun =>
    show (postRun env report dryRun s).state.marks u ≤
      max 1 (s.marks u) + 0 + if createdBlind u (postRun env report dryRun s) then 1 else 0
    have posted := posted_postRun env report dryRun s
    rcases posted.marks_le wf u with le | ⟨-, le⟩ | ⟨-, missed, target, created, hu⟩
    · omega
    · omega
    · rw [if_pos (createdBlind_of_result created hu missed)]
      have := posted.marks_le_succ wf u
      omega
  | setPulls pulls => exact Nat.le_add_right_of_le (Nat.le_add_right_of_le atLeast)
  | addComment on body =>
    have added := Store.marks_add s on body u
    show (s.add on body).marks u ≤
      max 1 (s.marks u) + (if on = u && body.mentions marker then 1 else 0) + 0
    simp only [Bool.and_eq_true, decide_eq_true_eq]
    omega
  | deleteComment id =>
    have fewer := Store.marks_delete_le s id u
    exact Nat.le_add_right_of_le (Nat.le_add_right_of_le (Nat.le_trans fewer atLeast))
  | setFailing names => exact Nat.le_add_right_of_le (Nat.le_add_right_of_le atLeast)

/-- A session raises the number of marked comments on a subject above one only by marks of others and by
runs that missed what was there. -/
theorem marks_after_le {s : Store} (wf : s.WellFormed) (steps : List SessionStep) (u : Text) :
    (s.after steps).marks u ≤
      max 1 (s.marks u) + foreignMarks u steps + blindMarks u (s.runSession steps) := by
  induction steps generalizing s with
  | nil => exact Nat.le_max_right ..
  | cons step steps ih =>
    have first := marks_perform_le wf step u
    have rest := ih (wf.perform step)
    simp only [foreignMarks, blindMarks, Store.runSession, List.countP_cons, Store.after_cons] at rest ⊢
    omega

/-- After every session the number of marked comments on a subject is at most one more than the marks of
others and the runs that created a comment there after they had missed what was there. And a run that
misses nothing creates a comment only on a subject without a marked one. -/
theorem marks_le_one_add (steps : List SessionStep) (u : Text) :
    (Store.empty.after steps).marks u ≤
        1 + foreignMarks u steps + blindMarks u (Store.empty.runSession steps) ∧
      ∀ (env : Environment) (report : Except Failure Text) (dryRun : Bool) (target : Target),
        let r := postRun env report dryRun (Store.empty.after steps)
        r.result = .ok (some (.created target)) →
          (exchanges r.trace).any Exchange.missed = false →
            (Store.empty.after steps).marks target.subject = 0 := by
  refine ⟨marks_after_le Store.WellFormed.empty steps u, ?_⟩
  intro env report dryRun target r created seen
  exact (posted_postRun env report dryRun (Store.empty.after steps)).marks_eq_zero created seen

/-- The bound is reached by two runs, the second without a list of the comments, and a mark of somebody
else. The first run had found nothing to miss. -/
theorem marks_le_one_add_reached :
    let steps : List SessionStep := [.post localEnvironment (.ok []) false,
      .setFailing ["list_commit_comments".toList], .post localEnvironment (.ok []) false,
      .addComment "commit:c".toList marker]
    (foreignMarks "commit:c".toList steps = 1 ∧
      blindMarks "commit:c".toList (Store.empty.runSession steps) = 1 ∧
      (Store.empty.after steps).marks "commit:c".toList =
        1 + foreignMarks "commit:c".toList steps +
          blindMarks "commit:c".toList (Store.empty.runSession steps)) ∧
      (postRun localEnvironment (.ok []) false (Store.empty.after [])).result =
        .ok (some (.created (.commit "c".toList))) ∧
      (Store.empty.after []).marks "commit:c".toList = 0 := by
  intro steps
  have created : (postRun localEnvironment (.ok []) false (Store.empty.after [])).result =
      .ok (some (.created (.commit "c".toList))) := by decide +kernel
  refine ⟨⟨by decide +kernel, by decide +kernel, ?_⟩, created, ?_⟩
  · exact Nat.le_antisymm (marks_le_one_add steps _).1 (by decide +kernel)
  · exact (marks_le_one_add [] []).2 _ _ _ _ created (by decide +kernel)

end SessionStep

end CoverageNote
