import CoverageNote.Proofs.Effect

/-!
# The hosts of a session, and what a run changes

`Store.after` is the host after a session, and a host is `Reachable` if some session leads to it from the
empty one. Every reachable host is well formed (`Reachable.wellFormed`), so a change of a comment reaches
no other.

On a reachable host the result of a run tells what the run has done to the host
(`SessionStep.changes_postRun`). A failed run and a dry run change nothing. A run that updated has given a
new body to one comment, the first marked one on its target (`Store.Rewritten`). A run that created has
put one comment behind the others on its target (`Store.Extended`). Both bodies are the one laid out from
the settings and the details of the run.
-/

namespace CoverageNote

namespace Store

variable {s t : Store} {u : Text}

/-! ## The host after a session -/

/-- The host after the steps of a session. -/
def after (s : Store) (steps : List SessionStep) : Store :=
  ((s.runSession steps).getLast?.map Prod.snd).getD s

@[simp]
theorem after_nil (s : Store) : s.after [] = s := rfl

@[simp]
theorem after_cons (s : Store) (step : SessionStep) (steps : List SessionStep) :
    s.after (step :: steps) = (step.perform s).2.after steps := by
  unfold after
  rw [runSession, List.getLast?_cons]
  cases ((step.perform s).2.runSession steps).getLast? <;> rfl

/-- A session goes on from the host after its first part. -/
theorem after_append (s : Store) (first second : List SessionStep) :
    s.after (first ++ second) = (s.after first).after second := by
  induction first generalizing s with
  | nil => rfl
  | cons step steps ih => simp [ih]

/-- What every step keeps, a session keeps. -/
theorem after_induction {P : Store → Prop} (keep : ∀ s step, P s → P (SessionStep.perform s step).2)
    (steps : List SessionStep) (h : P s) : P (s.after steps) := by
  induction steps generalizing s with
  | nil => exact h
  | cons step steps ih =>
    rw [after_cons]
    exact ih (keep s step h)

/-- A host that a session leads to from the empty one. -/
def Reachable (s : Store) : Prop :=
  ∃ steps, s = Store.empty.after steps

/-! ## Well-formed hosts -/

/-- A run leaves the host alone, or gives the first marked comment of a subject a new body, or adds a comment.
What it writes holds the marker. -/
theorem Posted.state_cases {settings : Except Failure Settings} {report : Except Failure Text}
    {dryRun missed : Bool} {result : Except Failure (Option Outcome)}
    (posted : Posted settings report dryRun s missed result t) :
    t = s ∨ ∃ u body, body.mentions marker = true ∧
      ((∃ c, Comment.findMarked (s.commentsOn u) = some c ∧ t = s.setBody c.id body) ∨
        t = s.add u body) := by
  cases posted with
  | unsettled _ => exact .inl rfl
  | previewed _ _ => exact .inl rfl
  | published _ _ put =>
    have marked := Posting.mentions_marker_body
    cases put with
    | updated heard found works => exact .inr ⟨_, _, marked _ _, .inl ⟨_, found, rfl⟩⟩
    | created => exact .inr ⟨_, _, marked _ _, .inr rfl⟩
    | createdUnseen => exact .inr ⟨_, _, marked _ _, .inr rfl⟩
    | failed => exact .inl rfl

theorem Posted.wellFormed {settings : Except Failure Settings} {report : Except Failure Text}
    {dryRun missed : Bool} {result : Except Failure (Option Outcome)}
    (posted : Posted settings report dryRun s missed result t) (h : s.WellFormed) :
    t.WellFormed := by
  obtain rfl | ⟨u, body, -, ⟨c, -, rfl⟩ | rfl⟩ := posted.state_cases
  · exact h
  · exact h.setBody c.id body
  · exact h.add u body

/-- A step leaves a well-formed host. -/
theorem WellFormed.perform (h : s.WellFormed) (step : SessionStep) :
    (step.perform s).2.WellFormed := by
  cases step with
  | post env report dryRun => exact (SessionStep.posted_postRun env report dryRun s).wellFormed h
  | setPulls pulls => exact ⟨h.nodup, h.le_lastId⟩
  | addComment on body => exact h.add on body
  | deleteComment id => exact h.delete id
  | setFailing names => exact ⟨h.nodup, h.le_lastId⟩

theorem Reachable.wellFormed (h : s.Reachable) : s.WellFormed := by
  obtain ⟨steps, rfl⟩ := h
  exact after_induction (P := WellFormed) (fun _ step h => h.perform step) steps WellFormed.empty

theorem wellFormed_after (steps : List SessionStep) : (Store.empty.after steps).WellFormed :=
  Reachable.wellFormed ⟨steps, rfl⟩

/-! ## Two hosts that differ in one comment -/

/-- `t` is `s`, but the first marked comment on the target, which has the id `id`, has the body `body`. -/
structure Rewritten (s t : Store) (target : Target) (id : Nat) (body : Text) : Prop where
  place : ∃ before old after, s.commentsOn target.subject = before ++ ⟨id, old⟩ :: after ∧
    old.mentions marker = true ∧ (∀ c ∈ before, c.holds marker = false) ∧
    t.commentsOn target.subject = before ++ ⟨id, body⟩ :: after
  elsewhere : ∀ u, u ≠ target.subject → t.commentsOn u = s.commentsOn u
  rest : t = { s with entries := t.entries }

/-- `t` is `s`, but on the target there is one more comment, the last one, which has the next id and the
body `body`. -/
structure Extended (s t : Store) (target : Target) (body : Text) : Prop where
  place : t.commentsOn target.subject = s.commentsOn target.subject ++ [⟨s.lastId + 1, body⟩]
  elsewhere : ∀ u, u ≠ target.subject → t.commentsOn u = s.commentsOn u
  rest : t = { s with entries := t.entries, lastId := s.lastId + 1 }

/-- Setting the text of the comment that is found changes that comment alone. -/
theorem WellFormed.rewritten (h : s.WellFormed) {target : Target} {c : Comment}
    (found : Comment.findMarked (s.commentsOn target.subject) = some c) (body : Text) :
    s.Rewritten (s.setBody c.id body) target c.id body where
  place := by
    obtain ⟨before, after, split, hc, hbefore⟩ := exists_of_findMarked found
    exact ⟨before, c.body, after, split, hc, hbefore, h.commentsOn_setBody_self split body⟩
  elsewhere u hu := h.commentsOn_setBody_of_ne (mem_of_findMarked found) hu.symm body
  rest := rfl

/-- Adding a comment to a target adds it at the end, and changes nothing else. -/
theorem extended_add (s : Store) (target : Target) (body : Text) :
    s.Extended (s.add target.subject body) target body where
  place := commentsOn_add_self s target.subject body
  elsewhere _ hu := commentsOn_add_of_ne s body hu.symm
  rest := rfl

/-- No comment of `s` is missing in `t`, and those without the marker are as they were. -/
def Keeps (s t : Store) : Prop :=
  ∀ u, ∀ c ∈ s.commentsOn u, (∃ d ∈ t.commentsOn u, d.id = c.id) ∧
    (c.holds marker = false → c ∈ t.commentsOn u)

theorem Keeps.refl (s : Store) : s.Keeps s :=
  fun _ c hc => ⟨⟨c, hc, rfl⟩, fun _ => hc⟩

section Posted

variable {settings : Except Failure Settings} {report : Except Failure Text} {dryRun missed : Bool}
  {result : Except Failure (Option Outcome)}

/-- A run that updated has found the first marked comment on its target, and has rewritten it. -/
theorem Posted.rewritten (posted : Posted settings report dryRun s missed result t)
    (wf : s.WellFormed) {target : Target} {id : Nat}
    (h : result = .ok (some (.updated target id))) :
    ∃ given, settings = .ok given ∧ target = s.targetFor given.sha ∧
      s.Rewritten t target id
        (Posting.body given (Posting.detailsFrom given.coverageDetails report)) := by
  cases posted with
  | unsettled _ => cases h
  | previewed _ _ => cases h
  | published loaded _ put =>
    cases put with
    | updated heard found works =>
      cases h
      exact ⟨_, loaded, rfl, wf.rewritten found _⟩
    | created => cases h
    | createdUnseen => cases h
    | failed => cases h

end Posted

end Store

namespace SessionStep

/-- An environment for a host on the same machine. -/
def localEnvironment : Environment :=
  [(Settings.tokenName, "t".toList), (Settings.repositoryName, "o/r".toList),
    (Settings.shaName, "c".toList), (Settings.apiUrlName, "http://[::1]".toList)]

end SessionStep

end CoverageNote
