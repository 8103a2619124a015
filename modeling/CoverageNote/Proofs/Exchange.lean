import CoverageNote.Plan.Posting

/-!
# What was asked during a run

`exchanges` reads the questions of a run off its trace, each with its answer, in order. What is said in
between is left out.

In a world the answers are not arbitrary : each one is the world's, in the state that the answers before
it have led to (`Replay`). `replay_run` says so of every plan, so a result about the exchanges of a plan
(which holds in all worlds) and a fact about the answers of one world meet without carrying out the plan
again.
-/

namespace CoverageNote

variable {α β σ ε : Type}

/-! ## Reading a trace -/

/-- A question with its answer. -/
structure Exchange where
  question : Question
  answer : Except Failure question.Answer

/-- The question of a moment with its answer, if something was asked. -/
def Moment.exchange? : Moment ε → Option Exchange
  | .said _ => none
  | .asked q answer _ => some ⟨q, answer⟩

/-- What was asked during a run, with the answers, in order. -/
def exchanges (trace : List (Moment ε)) : List Exchange :=
  trace.filterMap Moment.exchange?

@[simp]
theorem exchanges_nil : exchanges ([] : List (Moment ε)) = [] := rfl

@[simp]
theorem exchanges_said (n : Note) (trace : List (Moment ε)) :
    exchanges (.said n :: trace) = exchanges trace := rfl

/-- The exchanges of two runs in a row stand in a row. -/
@[simp]
theorem exchanges_append (first second : List (Moment ε)) :
    exchanges (first ++ second) = exchanges first ++ exchanges second :=
  List.filterMap_append

namespace Plan

@[simp]
theorem run_tell (world : World σ ε) (n : Note) (s : σ) :
    (tell n).run world s = ⟨(), s, [.said n]⟩ := rfl

/-- A question runs to its answer, with what is sent for it. -/
@[simp]
theorem run_query (world : World σ ε) (q : Question) (s : σ) :
    (query q).run world s =
      ⟨(world.answer q s).1, (world.answer q s).2.2,
        [.asked q (world.answer q s).1 (world.answer q s).2.1]⟩ := rfl

/-- A plan whose result is changed runs as before. -/
@[simp]
theorem run_map (world : World σ ε) (f : α → β) (p : Plan α) (s : σ) :
    (f <$> p).run world s =
      ⟨f (p.run world s).result, (p.run world s).state, (p.run world s).trace⟩ := by
  rw [map_eq_pure_bind, run_bind]
  simp

end Plan

/-- The exchanges are what `world` answers from the state `s` on, and lead to the state `t`. -/
def Replay (world : World σ ε) : σ → List Exchange → σ → Prop
  | s, [], t => t = s
  | s, e :: asked, t =>
    e.answer = (world.answer e.question s).1 ∧
      Replay world (world.answer e.question s).2.2 asked t

/-- The exchanges of a run are what the world answers, and lead to the state after the run. -/
theorem replay_run (world : World σ ε) (p : Plan α) (s : σ) :
    Replay world s (exchanges (p.run world s).trace) (p.run world s).state := by
  induction p generalizing s with
  | done a => rfl
  | say n rest ih => exact ih s
  | ask q next ih => exact ⟨rfl, ih _ _⟩

/-- A replay of two parts goes through the state between them. -/
theorem Replay.of_append {world : World σ ε} {t : σ} {second : List Exchange} :
    ∀ {first : List Exchange} {s : σ}, Replay world s (first ++ second) t →
      ∃ between, Replay world s first between ∧ Replay world between second t
  | [], s, h => ⟨s, rfl, h⟩
  | _ :: _, _, h =>
    have ⟨between, hfirst, hsecond⟩ := h.2.of_append
    ⟨between, ⟨h.1, hfirst⟩, hsecond⟩

/-! ## Kinds of exchanges -/

namespace Exchange

/-- The call that was made, if one was. -/
def call? (e : Exchange) : Option Call :=
  match e.question with
  | .call c => some c
  | _ => none

/-- Whether a call to the host was made. -/
def isCall (e : Exchange) : Bool :=
  match e.question with
  | .call _ => true
  | _ => false

/-- Whether a call was made that writes. -/
def isWrite (e : Exchange) : Bool :=
  match e.question with
  | .call c => c.body?.isSome
  | _ => false

/-- Whether the answer is no failure. -/
def succeeded (e : Exchange) : Bool :=
  match e.answer with
  | .ok _ => true
  | .error _ => false

/-- What calls nothing writes nothing. -/
theorem isWrite_eq_false {e : Exchange} (h : e.isCall = false) : e.isWrite = false := by
  obtain ⟨q, answer⟩ := e
  cases q <;> simp_all [isCall, isWrite]

end Exchange

/-- The outcome that a call on a target stands for, if it is one that writes. -/
def Call.outcome? (target : Target) : Call → Option Outcome
  | createPullRequestComment _ _ | createCommitComment _ _ => some (.created target)
  | updatePullRequestComment id _ | updateCommitComment id _ => some (.updated target id)
  | listPullRequests _ | listPullRequestComments _ | listCommitComments _ => none

end CoverageNote
