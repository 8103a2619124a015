import CoverageNote.Proofs.Exchange
import Mathlib.Data.List.TakeWhile
import Mathlib.Logic.Function.Basic

/-!
# Runs that take turns

Several runs can be under way in one world. They take turns, and in a turn a run goes on to its next
question and has it answered (`Plan.advance`), so a question and its answer are one step, and whatever the
others do comes before it or after it.

A `Race` is a moment of this : the state of the world, what is left of each run, and the calls to the host
so far, in order, each with the run that made it. `callers` reads off this log who made a kind of call,
`callsOf` what one run called, and `early` which runs listed comments before any were created.
-/

namespace CoverageNote

variable {α σ ε : Type} {k : Nat}

/-! ## One turn -/

namespace Plan

/-- Carry out a plan up to its next question, and have that answered. What comes of it is what is left of
the plan. -/
def advance (world : World σ ε) : Plan α → σ → Run (Plan α) σ ε
  | done a, s => ⟨done a, s, []⟩
  | say n rest, s =>
    let r := rest.advance world s
    { r with trace := .said n :: r.trace }
  | ask q next, s =>
    let (answer, sent, s') := world.answer q s
    ⟨next answer, s', [.asked q answer sent]⟩

/-- A turn ends with the first question and its answer. -/
theorem advance_query_bind {β : Type} (world : World σ ε) (q : Question)
    (f : Except Failure q.Answer → Plan β) (s : σ) :
    (query q >>= f).advance world s =
      ⟨f (world.answer q s).1, (world.answer q s).2.2,
        [.asked q (world.answer q s).1 (world.answer q s).2.1]⟩ := rfl

theorem advance_tell_bind {β : Type} (world : World σ ε) (n : Note) (f : Unit → Plan β) (s : σ) :
    (tell n >>= f).advance world s =
      ⟨((f ()).advance world s).result, ((f ()).advance world s).state,
        .said n :: ((f ()).advance world s).trace⟩ := rfl

end Plan

/-- Runs that are under way in one world, and the calls they have made. -/
structure Race (k : Nat) (α σ : Type) where
  state : σ
  runs : Fin k → Plan α
  calls : List (Fin k × Call)

namespace Race

/-- The runs before their first turn. -/
def start (s : σ) (plans : Fin k → Plan α) : Race k α σ :=
  ⟨s, plans, []⟩

/-- The run `i` takes a turn. -/
def turn (world : World σ ε) (r : Race k α σ) (i : Fin k) : Race k α σ :=
  let t := (r.runs i).advance world r.state
  { state := t.state
    runs := Function.update r.runs i t.result
    calls := r.calls ++ ((exchanges t.trace).filterMap Exchange.call?).map fun c => (i, c) }

/-- The runs take turns in the given order. -/
def turns (world : World σ ε) (r : Race k α σ) (order : List (Fin k)) : Race k α σ :=
  order.foldl (turn world) r

theorem turns_concat (world : World σ ε) (r : Race k α σ) (order : List (Fin k)) (i : Fin k) :
    r.turns world (order ++ [i]) = (r.turns world order).turn world i := by
  simp [turns]

end Race

/-! ## Kinds of calls -/

namespace Call

/-- Whether comments are listed. -/
def lists : Call → Bool
  | listPullRequestComments _ | listCommitComments _ => true
  | _ => false

/-- Whether a comment is created. -/
def creates : Call → Bool
  | createPullRequestComment _ _ | createCommitComment _ _ => true
  | _ => false

/-- Whether a comment is changed. -/
def changes : Call → Bool
  | updatePullRequestComment _ _ | updateCommitComment _ _ => true
  | _ => false

end Call

/-! ## Reading the log -/

/-- The runs that made a call of a kind, in the order of these calls. -/
def callers (kind : Call → Bool) (calls : List (Fin k × Call)) : List (Fin k) :=
  (calls.filter fun x => kind x.2).map Prod.fst

/-- The calls of one run. -/
def callsOf (calls : List (Fin k × Call)) (i : Fin k) : List Call :=
  (calls.filter fun x => x.1 = i).map Prod.snd

/-- The runs that listed comments before any were created. -/
def early (calls : List (Fin k × Call)) : List (Fin k) :=
  callers Call.lists (calls.takeWhile fun x => !x.2.creates)

variable {kind : Call → Bool} {calls : List (Fin k × Call)} {i : Fin k} {c : Call}

theorem callers_concat (kind : Call → Bool) (calls : List (Fin k × Call)) (i : Fin k) (c : Call) :
    callers kind (calls ++ [(i, c)]) = callers kind calls ++ if kind c then [i] else [] := by
  unfold callers
  cases h : kind c <;> simp [h]

/-- The calls of one caller are added to that caller's only. -/
theorem callsOf_append_map (calls : List (Fin k × Call)) (i j : Fin k) (made : List Call) :
    callsOf (calls ++ made.map fun c => (i, c)) j =
      callsOf calls j ++ if i = j then made else [] := by
  unfold callsOf
  rw [List.filter_append, List.map_append, List.filter_map, List.map_map]
  by_cases h : i = j <;> simp [h, Function.comp_def]

theorem mem_callers : i ∈ callers kind calls ↔ ∃ c ∈ callsOf calls i, kind c = true := by
  simp only [callers, callsOf, List.mem_map, List.mem_filter, decide_eq_true_eq]
  constructor
  · rintro ⟨⟨j, c⟩, ⟨hc, hk⟩, rfl⟩
    exact ⟨c, ⟨_, ⟨hc, rfl⟩, rfl⟩, hk⟩
  · rintro ⟨c, ⟨⟨j, c⟩, ⟨hc, rfl⟩, rfl⟩, hk⟩
    exact ⟨_, ⟨hc, hk⟩, rfl⟩

/-- Nothing was created, or not all calls are read. -/
theorem takeWhile_creates_eq_self_iff :
    calls.takeWhile (fun x => !x.2.creates) = calls ↔ callers Call.creates calls = [] := by
  simp only [callers, List.takeWhile_eq_self_iff, List.map_eq_nil_iff, List.filter_eq_nil_iff,
    Bool.not_eq_eq_eq_not, Bool.not_true, Bool.not_eq_true]

/-- A new listing is early if nothing was created before it. -/
theorem early_concat (calls : List (Fin k × Call)) (i : Fin k) (c : Call) :
    early (calls ++ [(i, c)]) =
      early calls ++ if callers Call.creates calls = [] ∧ c.lists = true then [i] else [] := by
  unfold early
  by_cases h : callers Call.creates calls = []
  · have all := takeWhile_creates_eq_self_iff.mpr h
    rw [List.takeWhile_append, all, if_pos rfl]
    simp only [h, true_and]
    cases c <;> simp [callers, Call.lists, Call.creates]
  · have cut : ¬(calls.takeWhile fun x => !x.2.creates).length = calls.length := fun full =>
      h (takeWhile_creates_eq_self_iff.mp ((List.takeWhile_prefix _).eq_of_length full))
    rw [List.takeWhile_append, if_neg cut]
    simp [h]

/-- A call that lists nothing is no early listing. -/
theorem early_concat_of_not_lists (calls : List (Fin k × Call)) (i : Fin k) (h : c.lists = false) :
    early (calls ++ [(i, c)]) = early calls := by
  rw [early_concat, h, if_neg (fun both => Bool.false_ne_true both.2), List.append_nil]

end CoverageNote
