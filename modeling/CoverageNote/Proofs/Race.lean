import CoverageNote.Proofs.Session
import CoverageNote.Proofs.Standing

/-!
# Runs that race

To look for a comment and to write one are two calls, and other runs can come in between. The result
`Posting.upsert_race` says what comes of any number of runs that put bodies on one target at once,
whatever the order of their turns.

If a marked comment is there at the start, all runs find it, and the last one to change it has the last
word. If there is none, the runs that listed the comments before any run wrote one have found nothing,
and each of them writes a comment; the others find the first of these. So many marked comments are then on
the target as runs were early, but nothing that was there before is lost.

The invariant is `Standing.Inv`. It ties where the runs stand to the calls they have made, and the host to
the runs that have written, in the order of their writing (`Store.Evolved`).
-/

namespace CoverageNote

variable {k : Nat}

/-! ## More than one new comment -/

/-- Comments with these bodies and ids that follow each other. -/
def Comment.number : Nat → List Text → List Comment
  | _, [] => []
  | id, body :: bodies => ⟨id, body⟩ :: number (id + 1) bodies

theorem Comment.number_append (id : Nat) (first second : List Text) :
    number id (first ++ second) = number id first ++ number (id + first.length) second := by
  induction first generalizing id with
  | nil => rfl
  | cons body bodies ih =>
    simp only [List.cons_append, number, ih, List.length_cons]
    rw [show id + 1 + bodies.length = id + (bodies.length + 1) by omega]

@[simp]
theorem Comment.length_number (id : Nat) (bodies : List Text) :
    (number id bodies).length = bodies.length := by
  induction bodies generalizing id with
  | nil => rfl
  | cons body bodies ih => simp [number, ih]

namespace Store

variable {s t : Store} {target : Target} {body old : Text} {added : List Text} {id : Nat}

/-- `t` is `s`, but on the target there are more comments, behind the others, which have the next ids and
the bodies `added`. -/
structure Appended (s t : Store) (target : Target) (added : List Text) : Prop where
  place : t.commentsOn target.subject =
    s.commentsOn target.subject ++ Comment.number (s.lastId + 1) added
  elsewhere : ∀ u, u ≠ target.subject → t.commentsOn u = s.commentsOn u
  rest : t = { s with entries := t.entries, lastId := s.lastId + added.length }

theorem Appended.nil (s : Store) (target : Target) : s.Appended s target [] where
  place := (List.append_nil _).symm
  elsewhere _ _ := rfl
  rest := rfl

/-- One more comment is appended behind the others. -/
theorem Appended.add (h : s.Appended t target added) (body : Text) :
    s.Appended (t.add target.subject body) target (added ++ [body]) where
  place := by
    have last : t.lastId = s.lastId + added.length := congrArg Store.lastId h.rest
    rw [commentsOn_add_self, h.place, List.append_assoc, Comment.number_append, last]
    simp only [Comment.number]
    rw [show s.lastId + added.length + 1 = s.lastId + 1 + added.length by omega]
  elsewhere u hu := by rw [commentsOn_add_of_ne t body hu.symm, h.elsewhere u hu]
  rest := by
    rw [h.rest, List.length_append, ← Nat.add_assoc]
    rfl

/-- The first appended comment can be given another text. -/
theorem Appended.setBody (h : s.Appended t target (old :: added)) (wf : t.WellFormed)
    (body : Text) : s.Appended (t.setBody (s.lastId + 1) body) target (body :: added) where
  place := wf.commentsOn_setBody_self (c := ⟨s.lastId + 1, old⟩) h.place body
  elsewhere u hu := by
    have there : ⟨s.lastId + 1, old⟩ ∈ t.commentsOn target.subject := by
      rw [h.place]
      exact List.mem_append_right _ (List.mem_cons_self ..)
    rw [wf.commentsOn_setBody_of_ne there hu.symm, h.elsewhere u hu]
  rest := by
    rw [h.rest]
    rfl

/-- A second new body for the comment takes the place of the first one. -/
theorem Rewritten.setBody (h : s.Rewritten t target id old) (wf : t.WellFormed) (body : Text) :
    s.Rewritten (t.setBody id body) target id body where
  place := by
    obtain ⟨before, first, after, hs, marked, unmarked, ht⟩ := h.place
    exact ⟨before, first, after, hs, marked, unmarked,
      wf.commentsOn_setBody_self (c := ⟨id, old⟩) ht body⟩
  elsewhere u hu := by
    obtain ⟨before, first, after, -, -, -, ht⟩ := h.place
    have there : ⟨id, old⟩ ∈ t.commentsOn target.subject := by
      rw [ht]
      exact List.mem_append_right _ (List.mem_cons_self ..)
    rw [wf.commentsOn_setBody_of_ne there hu.symm, h.elsewhere u hu]
  rest := by
    rw [h.rest]
    rfl

/-- No comment is lost, and none is moved. -/
theorem Appended.isPrefix (h : s.Appended t target added) (u : Text) :
    s.commentsOn u <+: t.commentsOn u := by
  by_cases hu : u = target.subject
  · rw [hu, h.place]
    exact List.prefix_append _ _
  · exact (h.elsewhere u hu).symm ▸ List.prefix_refl _

/-! ## The host during a race -/

/-- The ways a host can have changed since it was `s`, by the runs that have created a comment and those
that have changed one, each in their order. -/
inductive Evolved (s : Store) (target : Target) (bodies : Fin k → Text) :
    List (Fin k) → List (Fin k) → Store → Prop where
  | untouched : Evolved s target bodies [] [] s
  | rewritten {id : Nat} {last : Fin k} {changers : List (Fin k)} {t : Store}
      (there : s.firstId target.subject = some id) (latest : changers.getLast? = some last)
      (h : s.Rewritten t target id (bodies last)) : Evolved s target bodies [] changers t
  | appended {first last : Fin k} {creators changers : List (Fin k)} {t : Store}
      (absent : s.firstId target.subject = none)
      (latest : (first :: changers).getLast? = some last)
      (h : s.Appended t target (bodies last :: creators.map bodies)) :
    Evolved s target bodies (first :: creators) changers t

section Evolved

variable {bodies : Fin k → Text} {creators changers : List (Fin k)}

/-- Whatever the callers do, the host goes on failing as it did. -/
theorem Evolved.fails (h : s.Evolved target bodies creators changers t) (c : Call) :
    t.fails c = s.fails c := by
  cases h with
  | untouched => rfl
  | rewritten _ _ h => rw [h.rest]; rfl
  | appended _ _ h => rw [h.rest]; rfl

/-- The first marked comment is the one that was there at the start, or else the first new one. -/
theorem Evolved.firstId (h : s.Evolved target bodies creators changers t)
    (marked : ∀ i, (bodies i).mentions marker = true) :
    t.firstId target.subject =
      (s.firstId target.subject).or (creators.head?.map fun _ => s.lastId + 1) := by
  cases h with
  | untouched => exact Option.or_none.symm
  | @rewritten id last _ _ there _ h =>
    obtain ⟨before, old, after, -, -, unmarked, place⟩ := h.place
    rw [there, Store.firstId, place,
      findMarked_append_cons (c := ⟨id, bodies last⟩) unmarked (marked last)]
    rfl
  | @appended first last _ _ _ absent _ h =>
    have unmarked : ∀ b ∈ s.commentsOn target.subject, b.holds marker = false := fun b hb => by
      simpa using List.find?_eq_none.mp (firstId_eq_none_iff.mp absent) b hb
    rw [absent, Store.firstId, h.place, Comment.number,
      findMarked_append_cons (c := ⟨s.lastId + 1, bodies last⟩) unmarked (marked last)]
    rfl

/-- Where no comment was at the start, a creation puts its caller last of those who have created. -/
theorem Evolved.create (h : s.Evolved target bodies creators changers t)
    (absent : s.firstId target.subject = none) (i : Fin k) :
    s.Evolved target bodies (creators ++ [i]) changers (t.add target.subject (bodies i)) := by
  cases h with
  | untouched => exact .appended absent rfl ((Appended.nil s target).add (bodies i))
  | rewritten there _ _ =>
    rw [absent] at there
    cases there
  | @appended first last creators _ _ _ latest h =>
    have grown := h.add (bodies i)
    rw [List.cons_append, ← List.map_singleton, ← List.map_append] at grown
    exact .appended absent latest grown

/-- A change puts its caller last of those who have changed, and the comment that is found gets its text. -/
theorem Evolved.change (h : s.Evolved target bodies creators changers t) (wf : t.WellFormed)
    (marked : ∀ i, (bodies i).mentions marker = true)
    (there : t.firstId target.subject = some id) (i : Fin k) :
    s.Evolved target bodies creators (changers ++ [i]) (t.setBody id (bodies i)) := by
  have first := h.firstId marked
  rw [there] at first
  cases h with
  | untouched =>
    obtain ⟨c, found, rfl⟩ := Option.map_eq_some_iff.mp there
    exact .rewritten there List.getLast?_concat (wf.rewritten found (bodies i))
  | @rewritten old _ _ _ there' _ h =>
    rw [there'] at first
    cases first
    exact .rewritten there' List.getLast?_concat (h.setBody wf (bodies i))
  | @appended first' _ _ changers _ absent _ h =>
    rw [absent] at first
    cases first
    have latest : (first' :: (changers ++ [i])).getLast? = some i :=
      List.getLast?_concat (l := first' :: changers)
    exact .appended absent latest (h.setBody wf (bodies i))

/-- A marked comment that was there at the start is the only one that can have changed. -/
theorem Evolved.of_some (h : s.Evolved target bodies creators changers t)
    (there : s.firstId target.subject = some id) :
    creators = [] ∧ (changers = [] ∨ ∃ last, changers.getLast? = some last ∧
      s.Rewritten t target id (bodies last)) := by
  cases h with
  | untouched => exact ⟨rfl, .inl rfl⟩
  | rewritten there' latest h =>
    rw [there'] at there
    cases there
    exact ⟨rfl, .inr ⟨_, latest, h⟩⟩
  | appended absent _ _ =>
    rw [absent] at there
    cases there

/-- If runs have created comments, these are all that is new. -/
theorem Evolved.nil_or_appended (h : s.Evolved target bodies creators changers t) :
    creators = [] ∨ ∃ first others last, creators = first :: others ∧
      (first :: changers).getLast? = some last ∧
      s.Appended t target (bodies last :: others.map bodies) := by
  cases h with
  | untouched => exact .inl rfl
  | rewritten _ _ _ => exact .inl rfl
  | appended _ latest h => exact .inr ⟨_, _, _, rfl, latest, h⟩

end Evolved

end Store

/-! ## The invariant -/

namespace Standing

/-- What holds of a race all along, if it began at the host `s`. A run has found nothing exactly if nothing
was there at the start and it was early, and whatever a run has found is the first marked comment still. -/
structure Inv (s : Store) (target : Target) (bodies : Fin k → Text) (a : Standing k) : Prop where
  wellFormed : a.host.WellFormed
  evolved : s.Evolved target bodies (callers Call.creates a.calls) (callers Call.changes a.calls) a.host
  callsOf : ∀ i, callsOf a.calls i = (a.stage i).calls target (bodies i)
  blind : ∀ i, (a.stage i).found? = some none ↔
    s.firstId target.subject = none ∧ i ∈ early a.calls
  seen : ∀ i id, (a.stage i).found? = some (some id) → a.host.firstId target.subject = some id
  nodup_early : (early a.calls).Nodup
  nodup_creators : (callers Call.creates a.calls).Nodup

variable {s : Store} {target : Target} {bodies : Fin k → Text} {a : Standing k} {i : Fin k}

/-- The invariant holds before the first turn. -/
theorem Inv.start (wf : s.WellFormed) (target : Target) (bodies : Fin k → Text) :
    Inv s target bodies (start s) where
  wellFormed := wf
  evolved := .untouched
  callsOf _ := rfl
  blind i := by simp [Standing.start, Stage.found?, early, callers]
  seen i id h := by simp [Standing.start, Stage.found?] at h
  nodup_early := List.nodup_nil
  nodup_creators := List.nodup_nil

namespace Inv

/-- Those who created are those who have written without having found anything. -/
theorem mem_creators (h : Inv s target bodies a) :
    i ∈ callers Call.creates a.calls ↔ a.stage i = .written none := by
  rw [mem_callers, h.callsOf]
  rcases stage : a.stage i with _ | found | found
  · simp [Stage.calls]
  · simp [Stage.calls]
  · cases found <;> simp [Stage.calls, Target.writing]

/-- A run that is early has listed the comments. -/
theorem stage_ne_of_mem_early (h : Inv s target bodies a) (hi : i ∈ early a.calls) :
    a.stage i ≠ .fresh := by
  intro fresh
  have listed : i ∈ callers Call.lists a.calls :=
    (((List.takeWhile_sublist _).filter _).map _).subset hi
  rw [mem_callers, h.callsOf, fresh] at listed
  simp [Stage.calls] at listed

theorem list (h : Inv s target bodies a) (marked : ∀ i, (bodies i).mentions marker = true)
    (stage : a.stage i = .fresh) : Inv s target bodies (a.turn target bodies i) := by
  have first := h.evolved.firstId marked
  have late : i ∉ early a.calls := fun hi => h.stage_ne_of_mem_early hi stage
  have asked := callsOf_turn h.callsOf i
  rw [turn_fresh stage] at asked ⊢
  constructor
  case wellFormed => exact h.wellFormed
  case evolved => simpa [callers_concat] using h.evolved
  case callsOf => exact asked
  case blind =>
    intro j
    rw [early_concat]
    rcases eq_or_ne j i with rfl | hne
    · -- The run finds nothing if nothing was there and nothing has been created, and then it is early.
      by_cases created : callers Call.creates a.calls = []
      · simp [Stage.found?, first, created]
      · simp [Stage.found?, first, created, late]
    · simpa [hne] using h.blind j
  case seen =>
    intro j id hj
    rcases eq_or_ne j i with rfl | hne
    · simpa [Stage.found?] using hj
    · exact h.seen j id (by simpa [hne] using hj)
  case nodup_early =>
    rw [early_concat]
    split
    · simpa using h.nodup_early.concat late
    · simpa using h.nodup_early
  case nodup_creators => simpa [callers_concat] using h.nodup_creators

theorem create (h : Inv s target bodies a) (marked : ∀ i, (bodies i).mentions marker = true)
    (stage : a.stage i = .listed none) : Inv s target bodies (a.turn target bodies i) := by
  have absent : s.firstId target.subject = none := ((h.blind i).mp (by rw [stage]; rfl)).1
  have new : i ∉ callers Call.creates a.calls := by
    rw [h.mem_creators, stage]
    simp
  have same := early_concat_of_not_lists a.calls i (target.kind_creation (bodies i)).1
  have asked := callsOf_turn h.callsOf i
  rw [turn_create stage] at asked ⊢
  constructor
  case wellFormed => exact h.wellFormed.add _ _
  case evolved => simpa [callers_concat] using h.evolved.create absent i
  case callsOf => exact asked
  case blind =>
    intro j
    rw [found?_update_written stage, same]
    exact h.blind j
  case seen =>
    intro j id hj
    rw [found?_update_written stage] at hj
    rw [Store.firstId_add _ _ (marked i), h.seen j id hj]
    rfl
  case nodup_early =>
    rw [same]
    exact h.nodup_early
  case nodup_creators => simpa [callers_concat] using h.nodup_creators.concat new

theorem change (h : Inv s target bodies a) (marked : ∀ i, (bodies i).mentions marker = true)
    {id : Nat} (stage : a.stage i = .listed (some id)) :
    Inv s target bodies (a.turn target bodies i) := by
  have there : a.host.firstId target.subject = some id := h.seen i id (by rw [stage]; rfl)
  have same := early_concat_of_not_lists a.calls i (target.kind_changing id (bodies i)).1
  have asked := callsOf_turn h.callsOf i
  rw [turn_change stage] at asked ⊢
  constructor
  case wellFormed => exact h.wellFormed.setBody _ _
  case evolved => simpa [callers_concat] using h.evolved.change h.wellFormed marked there i
  case callsOf => exact asked
  case blind =>
    intro j
    rw [found?_update_written stage, same]
    exact h.blind j
  case seen =>
    intro j id' hj
    rw [found?_update_written stage] at hj
    rw [h.wellFormed.firstId_setBody there (marked i), ← there]
    exact h.seen j id' hj
  case nodup_early =>
    rw [same]
    exact h.nodup_early
  case nodup_creators => simpa [callers_concat] using h.nodup_creators

/-- A turn keeps the invariant, at whatever stage its caller is. -/
theorem turn (h : Inv s target bodies a) (marked : ∀ i, (bodies i).mentions marker = true)
    (i : Fin k) : Inv s target bodies (a.turn target bodies i) := by
  cases stage : a.stage i with
  | fresh => exact h.list marked stage
  | listed found =>
    cases found with
    | none => exact h.create marked stage
    | some id => exact h.change marked stage
  | written found =>
    rw [turn_written stage]
    exact h

/-- Under the invariant every caller can go on with what it has found. -/
theorem ready (h : Inv s target bodies a) (i : Fin k) : (a.stage i).Ready a.host := by
  cases stage : a.stage i with
  | fresh => trivial
  | listed found =>
    cases found with
    | none => trivial
    | some id =>
      have first := h.seen i id (by rw [stage]; rfl)
      obtain ⟨c, found, rfl⟩ := Option.map_eq_some_iff.mp first
      exact Store.hasId_of_mem (Store.mem_of_findMarked found)
  | written found => trivial

/-- The invariant holds after any order of turns. -/
theorem turns (wf : s.WellFormed) (marked : ∀ i, (bodies i).mentions marker = true)
    (order : List (Fin k)) : Inv s target bodies ((Standing.start s).turns target bodies order) := by
  induction order using List.reverseRecOn with
  | nil => exact .start wf target bodies
  | append_singleton order i ih =>
    rw [turns_concat]
    exact ih.turn marked i

end Inv

/-- The turns of the race are those that its standing says. -/
theorem race_turns (settings : Except Failure Settings) (report : Except Failure Text)
    (wf : s.WellFormed) (works : ∀ c, s.fails c = false)
    (marked : ∀ i, (bodies i).mentions marker = true) (order : List (Fin k)) :
    (Race.start s fun i => Posting.upsert target (bodies i)).turns (Store.world settings report)
      order = ((start s).turns target bodies order).race target bodies := by
  induction order using List.reverseRecOn with
  | nil => rfl
  | append_singleton order i ih =>
    have inv : Inv s target bodies ((start s).turns target bodies order) := .turns wf marked order
    rw [Race.turns_concat, ih, turns_concat]
    exact race_turn (fun c => (inv.evolved.fails c).trans (works c)) (inv.ready i)

end Standing

/-! ## The end of a race -/

namespace Race

variable {α σ : Type}

/-- The run `i` is over, with this outcome and after these calls. -/
structure Ran (r : Race k (Except Failure Outcome) Store) (i : Fin k) (o : Outcome)
    (calls : List Call) : Prop where
  result : r.runs i = .done (.ok o)
  calls : callsOf r.calls i = calls

/-- Every run has changed the comment `id`, the first marked one on the target since the host was `s`, and
the last one to do so has given it its body. Nothing else has changed. -/
structure Changed (r : Race k (Except Failure Outcome) Store) (s : Store) (target : Target)
    (bodies : Fin k → Text) (id : Nat) : Prop where
  creators : callers Call.creates r.calls = []
  ran : ∀ i, r.Ran i (.updated target id) [target.listing, target.changing id (bodies i)]
  host : ∃ last, (callers Call.changes r.calls).getLast? = some last ∧
    s.Rewritten r.state target id (bodies last)

/-- The runs that listed the comments before any was created have each created one, the others have changed
the first of these, and the last run to write it has given it its body. Nothing else has changed since the
host was `s`. -/
structure Created (r : Race k (Except Failure Outcome) Store) (s : Store) (target : Target)
    (bodies : Fin k → Text) : Prop where
  nodup : (early r.calls).Nodup
  creators : (callers Call.creates r.calls).Perm (early r.calls)
  ran_early : ∀ i ∈ early r.calls,
    r.Ran i (.created target) [target.listing, target.creation (bodies i)]
  ran_late : ∀ i ∉ early r.calls, r.Ran i (.updated target (s.lastId + 1))
    [target.listing, target.changing (s.lastId + 1) (bodies i)]
  host : ∃ first others last, callers Call.creates r.calls = first :: others ∧
    (first :: callers Call.changes r.calls).getLast? = some last ∧
    s.Appended r.state target (bodies last :: others.map bodies)
  length : (r.state.commentsOn target.subject).length =
    (s.commentsOn target.subject).length + (early r.calls).length
  kept : ∀ u, s.commentsOn u <+: r.state.commentsOn u

end Race

namespace Standing

variable {s : Store} {target : Target} {bodies : Fin k → Text} {a : Standing k}

/-- A run that has written. -/
theorem Inv.ran (h : Inv s target bodies a) {i : Fin k} {found : Option Nat}
    (stage : a.stage i = .written found) :
    (a.race target bodies).Ran i (target.outcome found)
      [target.listing, target.writing (bodies i) found] where
  result := by
    show (a.stage i).plan target (bodies i) = _
    rw [stage]
    rfl
  calls := by
    show CoverageNote.callsOf a.calls i = _
    rw [h.callsOf, stage]
    rfl

/-- When all have written and a comment was there before, that one was changed by all. -/
theorem Inv.changed (h : Inv s target bodies a) (marked : ∀ i, (bodies i).mentions marker = true)
    (pos : 0 < k) (finished : ∀ i, ∃ found, a.stage i = .written found) {id : Nat}
    (there : s.firstId target.subject = some id) :
    (a.race target bodies).Changed s target bodies id := by
  have first := h.evolved.firstId marked
  rw [there, Option.some_or] at first
  have stage : ∀ i, a.stage i = .written (some id) := by
    intro i
    obtain ⟨found, stage⟩ := finished i
    cases found with
    | none =>
      have absent := ((h.blind i).mp (by rw [stage]; rfl)).1
      rw [there] at absent
      cases absent
    | some id' =>
      have seen := h.seen i id' (by rw [stage]; rfl)
      rw [first] at seen
      cases seen
      exact stage
  obtain ⟨creators, changers⟩ := h.evolved.of_some there
  refine ⟨creators, fun i => h.ran (stage i), ?_⟩
  refine changers.resolve_left fun none => ?_
  -- There is a run, and it has changed the comment.
  have changed : ⟨0, pos⟩ ∈ callers Call.changes a.calls := by
    rw [mem_callers, h.callsOf, stage]
    exact ⟨_, List.mem_cons_of_mem _ (List.mem_singleton_self _), (target.kind_changing id _).2.2⟩
  rw [none] at changed
  cases changed

/-- When all have written and none was there before, the early callers have created one each. -/
theorem Inv.created (h : Inv s target bodies a) (marked : ∀ i, (bodies i).mentions marker = true)
    (pos : 0 < k) (finished : ∀ i, ∃ found, a.stage i = .written found)
    (absent : s.firstId target.subject = none) :
    (a.race target bodies).Created s target bodies := by
  have first := h.evolved.firstId marked
  rw [absent, Option.none_or] at first
  have mem_early : ∀ i, i ∈ early a.calls ↔ a.stage i = .written none := by
    intro i
    obtain ⟨found, stage⟩ := finished i
    simpa [stage, Stage.found?, absent] using (h.blind i).symm
  have perm : (callers Call.creates a.calls).Perm (early a.calls) :=
    (List.perm_ext_iff_of_nodup h.nodup_creators h.nodup_early).mpr fun i =>
      h.mem_creators.trans (mem_early i).symm
  obtain ⟨founder, others, last, creators, latest, appended⟩ :=
    h.evolved.nil_or_appended.resolve_left fun none => by
      obtain ⟨found, stage⟩ := finished ⟨0, pos⟩
      cases found with
      | none =>
        have created := h.mem_creators.mpr stage
        rw [none] at created
        cases created
      | some id =>
        have seen := h.seen _ id (by rw [stage]; rfl)
        rw [first, none] at seen
        cases seen
  refine ⟨h.nodup_early, perm, fun i hi => h.ran ((mem_early i).mp hi), fun i hi => ?_,
    ⟨founder, others, last, creators, latest, appended⟩, ?_, appended.isPrefix⟩
  · obtain ⟨found, stage⟩ := finished i
    cases found with
    | none => exact absurd ((mem_early i).mpr stage) hi
    | some id =>
      have seen := h.seen i id (by rw [stage]; rfl)
      rw [first, creators] at seen
      cases seen
      exact h.ran stage
  · show (a.host.commentsOn target.subject).length = _ + (early a.calls).length
    rw [← perm.length_eq, creators, appended.place, List.length_append, Comment.length_number,
      List.length_cons, List.length_cons, List.length_map]

end Standing

namespace Posting

/-- What comes of a race of runs that put bodies on one target, on a host where no call fails and nobody
else writes, whatever the order of their turns is, so long as each of them has the two it needs. If a
marked comment is there at the start, all runs change the first one. If there is none, the runs that
listed the comments before any was created create one each, and the others change the first of these. -/
theorem upsert_race (settings : Except Failure Settings) (report : Except Failure Text)
    (target : Target) {s : Store} (wf : s.WellFormed) (works : ∀ c, s.fails c = false) (pos : 0 < k)
    (bodies : Fin k → Text) (marked : ∀ i, (bodies i).mentions marker = true)
    (order : List (Fin k)) (complete : ∀ i, 2 ≤ order.count i) :
    let r := (Race.start s fun i => upsert target (bodies i)).turns (Store.world settings report)
      order
    (∀ c, Comment.findMarked (s.commentsOn target.subject) = some c →
        r.Changed s target bodies c.id) ∧
      (Comment.findMarked (s.commentsOn target.subject) = none → r.Created s target bodies) := by
  have inv : Standing.Inv s target bodies ((Standing.start s).turns target bodies order) :=
    .turns wf marked order
  have finished : ∀ i, ∃ found,
      ((Standing.start s).turns target bodies order).stage i = .written found :=
    fun i => Standing.written_of_le_count target bodies s (complete i)
  rw [Standing.race_turns settings report wf works marked order]
  refine ⟨fun c found => inv.changed marked pos finished ?_, fun none =>
    inv.created marked pos finished (Store.firstId_eq_none_iff.mpr none)⟩
  rw [Store.firstId, found]
  rfl

/-- Two runs that both list the comments before either writes one : both are early, and both create. -/
theorem upsert_race_alternating :
    let s := Store.empty.add "pull:7".toList "hi".toList
    let bodies : Fin 2 → Text := fun i => marker ++ Text.decimal i
    let order : List (Fin 2) := [0, 1, 0, 1]
    let r := (Race.start s fun i => upsert (.pullRequest 7) (bodies i)).turns
      (Store.world (Settings.ofEnvironment []) (.ok [])) order
    s.WellFormed ∧ (∀ c, s.fails c = false) ∧ (∀ i, (bodies i).mentions marker = true) ∧
      (∀ i, 2 ≤ order.count i) ∧ Comment.findMarked (s.commentsOn "pull:7".toList) = none ∧
      r.Created s (.pullRequest 7) bodies ∧ early r.calls = [0, 1] := by
  intro s bodies order r
  have wf : s.WellFormed := Store.WellFormed.empty.add _ _
  have works : ∀ c, s.fails c = false := fun _ => rfl
  have marked : ∀ i, (bodies i).mentions marker = true := by decide
  have complete : ∀ i, 2 ≤ order.count i := by decide
  have absent : Comment.findMarked (s.commentsOn "pull:7".toList) = none := by decide
  have created := (upsert_race (Settings.ofEnvironment []) (.ok []) (.pullRequest 7) wf works
    (by decide) bodies marked order complete).2 absent
  exact ⟨wf, works, marked, complete, absent, created, by decide +kernel⟩

end Posting

end CoverageNote
