import CoverageNote.Host.Call
import CoverageNote.Settings

/-!
# Plans

A plan is a run before it is carried out : it says things to the reader, asks things of the world
around it, and goes on by the answer, which may be a failure. It does not say who answers. A world
(`World`) does, and `Plan.run` carries the plan out in one and keeps the trace of all that was said and
asked, in order.

So one plan is carried out against a script, against a host in memory and over the network, and what
holds of it in every world is said once.
-/

namespace CoverageNote

/-! ## What a plan says and asks -/

/-- Something said to the reader : a heading, a named value, what is being done, a text as it is, or a
warning with its fields. -/
inductive Note where
  | heading (name : Text)
  | value (key value : Text)
  | status (scope message : Text)
  | plain (line : Text)
  | warning (fields : List (Text × Text))
deriving Repr, DecidableEq

/-- Something asked of the world : the settings, the report of the coverage command, a connection to
the host, or a call to it. -/
inductive Question where
  | settings
  | report
  | connect (settings : Settings)
  | call (c : Call)
deriving Repr, DecidableEq

/-- What answers a question. -/
def Question.Answer : Question → Type
  | settings => Settings
  | report => Text
  | connect _ => Unit
  | call c => c.Answer

/-- A plan with a result in `α`. -/
inductive Plan (α : Type) where
  | done (a : α)
  | say (n : Note) (rest : Plan α)
  | ask (q : Question) (next : Except Failure q.Answer → Plan α)

namespace Plan

variable {α β σ ε : Type}

/-- Carry out a plan and go on with its result. -/
def bind : Plan α → (α → Plan β) → Plan β
  | done a, f => f a
  | say n rest, f => say n (rest.bind f)
  | ask q next, f => ask q fun answer => (next answer).bind f

instance : Monad Plan where
  pure := done
  bind := bind

/-- Say one thing. -/
def tell (n : Note) : Plan Unit :=
  say n (done ())

/-- Ask one thing. -/
def query (q : Question) : Plan (Except Failure q.Answer) :=
  ask q done

end Plan

/-! ## Carrying out -/

/-- Who answers, with a state `σ`. While an answer is found, signals in `ε` may be sent. -/
structure World (σ ε : Type) where
  answer : (q : Question) → σ → Except Failure q.Answer × List ε × σ

/-- One step of a run. -/
inductive Moment (ε : Type) where
  | said (n : Note)
  | asked (q : Question) (answer : Except Failure q.Answer) (sent : List ε)

/-- A plan carried out : its result, the state of the world after it, and what happened in order. -/
structure Run (α σ ε : Type) where
  result : α
  state : σ
  trace : List (Moment ε)

namespace Plan

variable {α β σ ε : Type}

/-- Carry out a plan in a world. -/
def run (world : World σ ε) : Plan α → σ → Run α σ ε
  | done a, s => ⟨a, s, []⟩
  | say n rest, s =>
    let r := rest.run world s
    { r with trace := .said n :: r.trace }
  | ask q next, s =>
    let (answer, sent, s') := world.answer q s
    let r := (next answer).run world s'
    { r with trace := .asked q answer sent :: r.trace }

/-! ## Laws -/

@[simp]
theorem run_done (world : World σ ε) (a : α) (s : σ) : (done a).run world s = ⟨a, s, []⟩ := rfl

@[simp]
theorem run_pure (world : World σ ε) (a : α) (s : σ) :
    (pure a : Plan α).run world s = ⟨a, s, []⟩ := rfl

/-- A plan that goes on after another one is carried out after it. -/
theorem run_bind (world : World σ ε) (p : Plan α) (f : α → Plan β) (s : σ) :
    (p >>= f).run world s =
      let first := p.run world s
      let then' := (f first.result).run world first.state
      { then' with trace := first.trace ++ then'.trace } := by
  show (p.bind f).run world s = _
  induction p generalizing s with
  | done a => simp [bind]
  | say n rest ih => simp [bind, run, ih]
  | ask q next ih => simp [bind, run, ih]

instance : LawfulMonad Plan :=
  LawfulMonad.mk' Plan
    (fun p => by
      show p.bind _ = p
      induction p with
      | done a => rfl
      | say n rest ih => exact congrArg (say n) ih
      | ask q next ih => exact congrArg (ask q) (funext ih))
    (fun _ _ => rfl)
    (fun p f g => by
      show (p.bind f).bind g = p.bind fun a => (f a).bind g
      induction p with
      | done a => rfl
      | say n rest ih => exact congrArg (say n) ih
      | ask q next ih => exact congrArg (ask q) (funext ih))

end Plan

end CoverageNote
