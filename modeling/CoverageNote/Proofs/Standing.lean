import CoverageNote.Proofs.Effect
import CoverageNote.Proofs.Turns
import Mathlib.Data.List.Induction

/-!
# Where a run stands

A run that puts a body on a target takes two turns on a host on which no call fails : it lists the
comments, and it writes. In between all that matters is the id it has found. `Stage` says where a run
stands, and `Stage.plan` what is left of it there.

`Standing` is a race of such runs seen in this way. Its turns are given outright, without plans, and
`race_turn` says that they are the turns of the race.
-/

namespace CoverageNote

variable {k : Nat}

/-! ## One run -/

/-- Where a run stands : it has not begun, it has listed the comments and found a marked one, or none,
or it has written by what it found. -/
inductive Stage where
  | fresh
  | listed (found : Option Nat)
  | written (found : Option Nat)

/-- A listing neither creates nor changes. -/
@[simp]
theorem Target.kind_listing (target : Target) :
    target.listing.lists = true ∧ target.listing.creates = false ∧
      target.listing.changes = false := by
  cases target <;> exact ⟨rfl, rfl, rfl⟩

@[simp]
theorem Target.kind_creation (target : Target) (body : Text) :
    (target.creation body).lists = false ∧ (target.creation body).creates = true ∧
      (target.creation body).changes = false := by
  cases target <;> exact ⟨rfl, rfl, rfl⟩

@[simp]
theorem Target.kind_changing (target : Target) (id : Nat) (body : Text) :
    (target.changing id body).lists = false ∧ (target.changing id body).creates = false ∧
      (target.changing id body).changes = true := by
  cases target <;> exact ⟨rfl, rfl, rfl⟩

namespace Stage

/-- What is left of a run. -/
def plan (target : Target) (body : Text) : Stage → Plan (Except Failure Outcome)
  | fresh => Posting.upsert target body
  | listed none => Posting.create target body
  | listed (some id) => Posting.change target id body
  | written found => .done (.ok (target.outcome found))

/-- The calls a run has made. -/
def calls (target : Target) (body : Text) : Stage → List Call
  | fresh => []
  | listed _ => [target.listing]
  | written found => [target.listing, target.writing body found]

/-- How many turns a run has needed so far. -/
def rank : Stage → Nat
  | fresh => 0
  | listed _ => 1
  | written _ => 2

/-- What a run has found, if it has listed the comments. -/
def found? : Stage → Option (Option Nat)
  | fresh => none
  | listed found => some found
  | written found => some found

/-- Where a run stands after a turn, if `first` is the first marked comment at the host. -/
def next (first : Option Nat) : Stage → Stage
  | fresh => listed first
  | listed found => written found
  | written found => written found

/-- The call a run makes in a turn. -/
def call? (target : Target) (body : Text) : Stage → Option Call
  | fresh => some target.listing
  | listed found => some (target.writing body found)
  | written _ => none

/-- The host after the turn of a run. -/
def act (target : Target) (body : Text) (s : Store) : Stage → Store
  | fresh => s
  | listed none => s.add target.subject body
  | listed (some id) => s.setBody id body
  | written _ => s

/-- The next stage has made the call of this one. -/
theorem calls_next (target : Target) (body : Text) (first : Option Nat) (stage : Stage) :
    (stage.next first).calls target body =
      stage.calls target body ++ (stage.call? target body).toList := by
  cases stage <;> rfl

/-- The comment that a run has found is still there. -/
def Ready (s : Store) : Stage → Prop
  | listed (some id) => s.hasId id = true
  | _ => True

end Stage

namespace Store

variable {s : Store} {settings : Except Failure Settings} {report : Except Failure Text}

/-- Where nothing fails the host carries out every call. -/
theorem answer_call {c : Call} (works : s.fails c = false) :
    (world settings report).answer (.call c) s = ((s.perform c).1, [], (s.perform c).2) := by
  show ((s.call c).1, [], (s.call c).2) = _
  rw [show s.call c = s.perform c from if_neg (by simp_all [fails])]

/-- The first turn lists the comments and leaves the host as it is. -/
theorem advance_comments {α : Type} (target : Target) (f : List Comment → Plan α)
    (works : ∀ c, s.fails c = false) :
    (Posting.comments target >>= f).advance (world settings report) s =
      ⟨f (s.commentsOn target.subject), s,
        [.asked (.call target.listing) (s.perform target.listing).1 []]⟩ := by
  cases target with
  | pullRequest number =>
    simp only [Posting.comments, Posting.lookup, bind_assoc, Plan.advance_query_bind,
      answer_call (works _), perform]
    rfl
  | commit sha =>
    simp only [Posting.comments, Posting.lookup, bind_assoc, Plan.advance_query_bind,
      answer_call (works _), perform]
    rfl

theorem advance_fresh (target : Target) (body : Text) (works : ∀ c, s.fails c = false) :
    ((Stage.fresh).plan target body).advance (world settings report) s =
      ⟨(Stage.listed (s.firstId target.subject)).plan target body, s,
        [.asked (.call target.listing) (s.perform target.listing).1 []]⟩ := by
  have left : Posting.writeOn target body (Comment.findMarked (s.commentsOn target.subject)) =
      (Stage.listed (s.firstId target.subject)).plan target body := by
    unfold firstId
    cases Comment.findMarked (s.commentsOn target.subject) with
    | none => rfl
    | some comment => rfl
  rw [Stage.plan, Posting.upsert_eq, advance_comments target _ works, left]

/-- A caller that found none creates its comment, with that call alone. -/
theorem advance_create (target : Target) (body : Text) (works : ∀ c, s.fails c = false) :
    ∃ trace, (Posting.create target body).advance (world settings report) s =
        ⟨.done (.ok (.created target)), s.add target.subject body, trace⟩ ∧
      (exchanges trace).filterMap Exchange.call? = [target.creation body] := by
  cases target with
  | pullRequest number =>
    simp only [Posting.create, Posting.createOnPullRequest, Posting.announceCreate,
      Posting.announce, Plan.advance_tell_bind, Plan.advance_query_bind, answer_call (works _)]
    exact ⟨_, rfl, rfl⟩
  | commit sha =>
    simp only [Posting.create, Posting.createOnCommit, Posting.announceCreate,
      Posting.announce, Plan.advance_tell_bind, Plan.advance_query_bind, answer_call (works _)]
    exact ⟨_, rfl, rfl⟩

/-- A caller that found a comment which is still there changes it, with that call alone. -/
theorem advance_change (target : Target) (body : Text) {id : Nat} (there : s.hasId id = true)
    (works : ∀ c, s.fails c = false) :
    ∃ trace, (Posting.change target id body).advance (world settings report) s =
        ⟨.done (.ok (.updated target id)), s.setBody id body, trace⟩ ∧
      (exchanges trace).filterMap Exchange.call? = [target.changing id body] := by
  have updated : s.update id body = (.ok (), s.setBody id body) := if_pos there
  cases target with
  | pullRequest number =>
    simp only [Posting.change, Posting.changeOnPullRequest, Posting.announceUpdate,
      Posting.announce, Plan.advance_tell_bind, Plan.advance_query_bind, answer_call (works _),
      perform, updated]
    exact ⟨_, rfl, rfl⟩
  | commit sha =>
    simp only [Posting.change, Posting.changeOnCommit, Posting.announceUpdate,
      Posting.announce, Plan.advance_tell_bind, Plan.advance_query_bind, answer_call (works _),
      perform, updated]
    exact ⟨_, rfl, rfl⟩

/-- A turn of a run is what its stage says. -/
theorem advance_plan (target : Target) (body : Text) (stage : Stage)
    (works : ∀ c, s.fails c = false) (ready : stage.Ready s) :
    ∃ trace, (stage.plan target body).advance (world settings report) s =
        ⟨(stage.next (s.firstId target.subject)).plan target body, stage.act target body s, trace⟩ ∧
      (exchanges trace).filterMap Exchange.call? = (stage.call? target body).toList := by
  cases stage with
  | fresh => exact ⟨_, advance_fresh target body works, rfl⟩
  | listed found =>
    cases found with
    | none => exact advance_create target body works
    | some id => exact advance_change target body ready works
  | written found => exact ⟨[], rfl, rfl⟩

end Store

/-! ## All runs -/

/-- A race of runs that put bodies on a target : the host, where each run stands, and the calls. -/
structure Standing (k : Nat) where
  host : Store
  stage : Fin k → Stage
  calls : List (Fin k × Call)

namespace Standing

/-- All runs before their first turn. -/
def start (s : Store) : Standing k :=
  ⟨s, fun _ => .fresh, []⟩

variable (target : Target) (bodies : Fin k → Text)

/-- The run `i` takes a turn. -/
def turn (a : Standing k) (i : Fin k) : Standing k where
  host := (a.stage i).act target (bodies i) a.host
  stage := Function.update a.stage i ((a.stage i).next (a.host.firstId target.subject))
  calls := a.calls ++ ((a.stage i).call? target (bodies i)).toList.map fun c => (i, c)

/-- The runs take turns in the given order. -/
def turns (a : Standing k) (order : List (Fin k)) : Standing k :=
  order.foldl (turn target bodies) a

/-- The race. -/
def race (a : Standing k) : Race k (Except Failure Outcome) Store where
  state := a.host
  runs i := (a.stage i).plan target (bodies i)
  calls := a.calls

variable {target : Target} {bodies : Fin k → Text} {settings : Except Failure Settings}
  {report : Except Failure Text}

theorem turns_concat (a : Standing k) (order : List (Fin k)) (i : Fin k) :
    a.turns target bodies (order ++ [i]) = (a.turns target bodies order).turn target bodies i := by
  simp [turns]

section Turn

variable {a : Standing k} {i : Fin k}

/-- The first turn of a caller lists and changes nothing at the host. -/
theorem turn_fresh (stage : a.stage i = .fresh) :
    a.turn target bodies i =
      ⟨a.host, Function.update a.stage i (.listed (a.host.firstId target.subject)),
        a.calls ++ [(i, target.listing)]⟩ := by
  simp only [turn, stage]
  rfl

theorem turn_create (stage : a.stage i = .listed none) :
    a.turn target bodies i =
      ⟨a.host.add target.subject (bodies i), Function.update a.stage i (.written none),
        a.calls ++ [(i, target.creation (bodies i))]⟩ := by
  simp only [turn, stage]
  rfl

theorem turn_change {id : Nat} (stage : a.stage i = .listed (some id)) :
    a.turn target bodies i =
      ⟨a.host.setBody id (bodies i), Function.update a.stage i (.written (some id)),
        a.calls ++ [(i, target.changing id (bodies i))]⟩ := by
  simp only [turn, stage]
  rfl

/-- A caller that has written does nothing more. -/
theorem turn_written {found : Option Nat} (stage : a.stage i = .written found) :
    a.turn target bodies i = a := by
  have same : Function.update a.stage i (.written found) = a.stage := by
    rw [← stage, Function.update_eq_self]
  simp only [turn, stage]
  show (⟨a.host, Function.update a.stage i (.written found), a.calls ++ []⟩ : Standing k) = a
  rw [same, List.append_nil]

/-- By writing a run finds nothing new. -/
theorem found?_update_written {found : Option Nat} (stage : a.stage i = .listed found) (j : Fin k) :
    (Function.update a.stage i (.written found) j).found? = (a.stage j).found? := by
  rcases eq_or_ne j i with rfl | hne
  · rw [Function.update_self, stage]
    rfl
  · rw [Function.update_of_ne hne]

/-- The calls a run has made are always those of its stage. -/
theorem callsOf_turn (h : ∀ j, callsOf a.calls j = (a.stage j).calls target (bodies j))
    (i j : Fin k) : callsOf (a.turn target bodies i).calls j =
      ((a.turn target bodies i).stage j).calls target (bodies j) := by
  simp only [turn, callsOf_append_map, h]
  rcases eq_or_ne j i with rfl | hne
  · rw [if_pos rfl, Function.update_self, Stage.calls_next]
  · rw [if_neg hne.symm, List.append_nil, Function.update_of_ne hne]

/-- A turn takes its own caller one stage on, to the last at the most, and no other. -/
theorem rank_turn (a : Standing k) (i j : Fin k) :
    ((a.turn target bodies i).stage j).rank = min 2 ((a.stage j).rank + if j = i then 1 else 0) := by
  simp only [turn]
  rcases eq_or_ne j i with rfl | hne
  · rw [Function.update_self, if_pos rfl]
    cases a.stage j <;> rfl
  · rw [Function.update_of_ne hne, if_neg hne]
    cases a.stage j <;> rfl

/-- A run stands where its number of turns puts it. -/
theorem rank_turns (s : Store) (order : List (Fin k)) (j : Fin k) :
    (((start s).turns target bodies order).stage j).rank = min 2 (order.count j) := by
  induction order using List.reverseRecOn with
  | nil => rfl
  | append_singleton order i ih =>
    rw [turns_concat, rank_turn, ih, List.count_append, List.count_singleton]
    rcases eq_or_ne j i with rfl | hne
    · rw [if_pos rfl, if_pos (beq_self_eq_true j)]
      omega
    · rw [if_neg hne, if_neg (by simpa using hne.symm)]
      omega

/-- Two turns are enough. -/
theorem written_of_le_count (target : Target) (bodies : Fin k → Text) (s : Store)
    {order : List (Fin k)} (h : 2 ≤ order.count i) :
    ∃ found, ((start s).turns target bodies order).stage i = .written found := by
  have rank := @rank_turns k target bodies s order i
  rw [Nat.min_eq_left h] at rank
  cases stage : ((start s).turns target bodies order).stage i with
  | fresh => simp [stage, Stage.rank] at rank
  | listed found => simp [stage, Stage.rank] at rank
  | written found => exact ⟨found, rfl⟩

end Turn

/-- A turn of the race is the turn of its standing. -/
theorem race_turn {a : Standing k} {i : Fin k} (works : ∀ c, a.host.fails c = false)
    (ready : (a.stage i).Ready a.host) :
    (a.race target bodies).turn (Store.world settings report) i =
      (a.turn target bodies i).race target bodies := by
  obtain ⟨trace, advanced, calls⟩ :=
    @Store.advance_plan a.host settings report target (bodies i) (a.stage i) works ready
  unfold race turn Race.turn
  simp only [advanced, calls]
  congr 1
  funext j
  exact (Function.apply_update (fun j stage => Stage.plan target (bodies j) stage) a.stage i _ j).symm

end Standing

end CoverageNote
