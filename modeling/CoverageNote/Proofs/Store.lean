import CoverageNote.Host.Store
import Mathlib.Data.List.Nodup

/-!
# The comments on a subject

A host in memory is looked at through `Store.commentsOn` : the comments on one subject, in the order of
writing. Each way to write is an equation about this view. A new comment comes last on its own subject
(`commentsOn_add`), a new body goes to the comments with its id (`commentsOn_setBody`), and a comment that
is taken away is missing (`commentsOn_delete`).

Bodies are changed by id alone, whatever subject the comment is on. So that a change reaches one comment
only, ids must not repeat : `Store.WellFormed` says that they do not, and that none is above the last one
given. Every way to write keeps this. On such a host a change of the first marked comment of a subject
leaves everything else as it was (`WellFormed.commentsOn_setBody_self`,
`WellFormed.commentsOn_setBody_of_ne`).

`Store.marks` counts the comments of this tool on a subject.
-/

namespace CoverageNote

namespace Store

variable {s : Store} {u v body : Text} {id : Nat} {c : Comment}

/-! ## Writing, seen from one subject -/

/-- A comment that is added is the last on its own subject, and on no other. -/
theorem commentsOn_add (s : Store) (v body u : Text) :
    (s.add v body).commentsOn u =
      s.commentsOn u ++ if v = u then [⟨s.lastId + 1, body⟩] else [] := by
  unfold commentsOn add
  by_cases h : v = u <;> simp [h]

theorem commentsOn_add_self (s : Store) (u body : Text) :
    (s.add u body).commentsOn u = s.commentsOn u ++ [⟨s.lastId + 1, body⟩] := by
  rw [commentsOn_add, if_pos rfl]

theorem commentsOn_add_of_ne (s : Store) (body : Text) (h : v ≠ u) :
    (s.add v body).commentsOn u = s.commentsOn u := by
  rw [commentsOn_add, if_neg h, List.append_nil]

/-- The text of a comment is set wherever its number stands. -/
theorem commentsOn_setBody (s : Store) (id : Nat) (body u : Text) :
    (s.setBody id body).commentsOn u =
      (s.commentsOn u).map fun c => if c.id = id then { c with body := body } else c := by
  unfold commentsOn setBody
  induction s.entries with
  | nil => rfl
  | cons e entries ih =>
    by_cases hid : e.comment.id = id <;> by_cases hon : e.on = u <;> simp_all

/-- A comment is deleted wherever its number stands. -/
theorem commentsOn_delete (s : Store) (id : Nat) (u : Text) :
    (s.delete id).commentsOn u = (s.commentsOn u).filter fun c => c.id ≠ id := by
  unfold commentsOn delete
  rw [List.filter_map, List.filter_filter, List.filter_filter]
  simp only [Function.comp_def, Bool.and_comm]

/-- The comments on a subject are its entries. -/
theorem mem_commentsOn : c ∈ s.commentsOn u ↔ ⟨u, c⟩ ∈ s.entries := by
  simp only [commentsOn, List.mem_map, List.mem_filter, decide_eq_true_eq]
  constructor
  · rintro ⟨⟨on, c⟩, ⟨he, rfl⟩, rfl⟩
    exact he
  · exact fun h => ⟨_, ⟨h, rfl⟩, rfl⟩

theorem hasId_of_mem (h : c ∈ s.commentsOn u) : s.hasId c.id = true :=
  List.any_eq_true.mpr ⟨_, mem_commentsOn.mp h, by simp⟩

/-! ## Ids -/

/-- No id is given twice, and none is above the last one given. -/
structure WellFormed (s : Store) : Prop where
  nodup : (s.entries.map fun e => e.comment.id).Nodup
  le_lastId : ∀ e ∈ s.entries, e.comment.id ≤ s.lastId

namespace WellFormed

theorem empty : WellFormed Store.empty :=
  ⟨List.nodup_nil, by simp [Store.empty]⟩

theorem add (h : s.WellFormed) (u body : Text) : (s.add u body).WellFormed := by
  refine ⟨?_, ?_⟩
  · simp only [Store.add, List.map_append, List.map_cons, List.map_nil, List.nodup_append,
      List.nodup_singleton, List.mem_singleton, true_and]
    refine ⟨h.nodup, ?_⟩
    rintro a ha b rfl rfl
    obtain ⟨e, he, hid⟩ := List.mem_map.mp ha
    have := h.le_lastId e he
    omega
  · intro e he
    simp only [Store.add, List.mem_append, List.mem_singleton] at he
    rcases he with he | rfl
    · exact Nat.le_succ_of_le (h.le_lastId e he)
    · exact Nat.le_refl _

theorem setBody (h : s.WellFormed) (id : Nat) (body : Text) : (s.setBody id body).WellFormed := by
  refine ⟨?_, ?_⟩
  · have ids : (s.setBody id body).entries.map (fun e => e.comment.id) =
        s.entries.map fun e => e.comment.id := by
      simp only [Store.setBody, List.map_map]
      refine List.map_congr_left fun e _ => ?_
      by_cases hid : e.comment.id = id <;> simp [hid]
    rw [ids]
    exact h.nodup
  · intro e he
    obtain ⟨e', he', rfl⟩ := List.mem_map.mp he
    have := h.le_lastId e' he'
    by_cases hid : e'.comment.id = id <;> simpa [hid, Store.setBody] using this

theorem delete (h : s.WellFormed) (id : Nat) : (s.delete id).WellFormed :=
  ⟨h.nodup.sublist (List.filter_sublist.map _), fun e he => h.le_lastId e (List.mem_filter.mp he).1⟩

/-- Two comments with the same id are the same comment on the same subject. -/
theorem eq_of_id_eq (h : s.WellFormed) {c d : Comment} (hc : c ∈ s.commentsOn u)
    (hd : d ∈ s.commentsOn v) (hid : c.id = d.id) : u = v ∧ c = d := by
  have := List.inj_on_of_nodup_map h.nodup (mem_commentsOn.mp hc) (mem_commentsOn.mp hd) hid
  exact Entry.mk.inj this

/-- A new body for a comment on a subject stays in its place. -/
theorem commentsOn_setBody_self (h : s.WellFormed) {before after : List Comment}
    (hc : s.commentsOn u = before ++ c :: after) (body : Text) :
    (s.setBody c.id body).commentsOn u = before ++ ⟨c.id, body⟩ :: after := by
  have ids : ((before ++ c :: after).map Comment.id).Nodup := by
    rw [← hc, commentsOn, List.map_map]
    exact h.nodup.sublist (List.filter_sublist.map _)
  rw [List.map_append, List.map_cons, List.nodup_middle, List.nodup_cons, ← List.map_append] at ids
  have other : ∀ d ∈ before ++ after,
      (if d.id = c.id then { d with body := body } else d) = d :=
    fun d hd => if_neg fun hid => ids.1 (List.mem_map.mpr ⟨d, hd, hid⟩)
  rw [commentsOn_setBody, hc, List.map_append, List.map_cons, if_pos rfl,
    List.map_congr_left fun d hd => other d (List.mem_append_left _ hd),
    List.map_congr_left fun d hd => other d (List.mem_append_right _ hd)]
  simp

/-- A new body for a comment on one subject changes nothing on another. -/
theorem commentsOn_setBody_of_ne (h : s.WellFormed) (hc : c ∈ s.commentsOn u) (huv : u ≠ v)
    (body : Text) : (s.setBody c.id body).commentsOn v = s.commentsOn v := by
  rw [commentsOn_setBody]
  conv_rhs => rw [← List.map_id (s.commentsOn v)]
  refine List.map_congr_left fun d hd => if_neg fun hid => huv ?_
  exact (h.eq_of_id_eq hc hd hid.symm).1

/-- A comment that gets the body it has leaves the host as it is. -/
theorem setBody_eq_self (h : s.WellFormed) (hc : c ∈ s.commentsOn u) :
    s.setBody c.id c.body = s := by
  have same : ∀ e ∈ s.entries, (if e.comment.id = c.id then
      { e with comment := { e.comment with body := c.body } } else e) = e := by
    rintro ⟨on, d⟩ he
    by_cases hid : d.id = c.id
    · obtain ⟨rfl, rfl⟩ := h.eq_of_id_eq (mem_commentsOn.mpr he) hc hid
      simp
    · exact if_neg hid
  unfold Store.setBody
  rw [List.map_congr_left same, List.map_id']

end WellFormed

/-! ## Comments of this tool -/

/-- The number of comments on a subject that hold the marker. -/
def marks (s : Store) (u : Text) : Nat :=
  (s.commentsOn u).countP (Comment.holds marker)

/-- No marked comment is found exactly if there is none. -/
theorem findMarked_eq_none_iff : Comment.findMarked (s.commentsOn u) = none ↔ s.marks u = 0 := by
  simp only [Comment.findMarked, Comment.find?, marks, List.find?_eq_none, List.countP_eq_zero]

/-- The comment that is found is on the subject and holds the marker, and no comment before it does. -/
theorem exists_of_findMarked {comments : List Comment}
    (found : Comment.findMarked comments = some c) :
    ∃ before after, comments = before ++ c :: after ∧ c.holds marker = true ∧
      ∀ b ∈ before, b.holds marker = false := by
  obtain ⟨hc, before, after, rfl, hbefore⟩ := List.find?_eq_some_iff_append.mp found
  exact ⟨before, after, rfl, hc, fun b hb => by simpa using hbefore b hb⟩

/-- The first marked comment is found, however many follow. -/
theorem findMarked_append_cons {before after : List Comment}
    (unmarked : ∀ b ∈ before, b.holds marker = false) (hc : c.holds marker = true) :
    Comment.findMarked (before ++ c :: after) = some c :=
  List.find?_eq_some_iff_append.mpr
    ⟨hc, before, after, rfl, fun b hb => by simpa using unmarked b hb⟩

theorem mem_of_findMarked (found : Comment.findMarked (s.commentsOn u) = some c) :
    c ∈ s.commentsOn u :=
  List.mem_of_find?_eq_some found

/-- The id of the first marked comment on a subject. -/
def firstId (s : Store) (u : Text) : Option Nat :=
  (Comment.findMarked (s.commentsOn u)).map Comment.id

theorem firstId_eq_none_iff :
    s.firstId u = none ↔ Comment.findMarked (s.commentsOn u) = none :=
  Option.map_eq_none_iff

/-- A new marked comment is the first one if there was none. -/
theorem firstId_add (s : Store) (u : Text) (marked : body.mentions marker = true) :
    (s.add u body).firstId u = (s.firstId u).or (some (s.lastId + 1)) := by
  unfold firstId Comment.findMarked Comment.find?
  rw [commentsOn_add_self, List.find?_append, List.find?_singleton,
    if_pos (show Comment.holds marker ⟨s.lastId + 1, body⟩ = true from marked)]
  cases List.find? (Comment.holds marker) (s.commentsOn u) <;> rfl

/-- The first marked comment stays the first one if its new body is marked. -/
theorem WellFormed.firstId_setBody (h : s.WellFormed) (first : s.firstId u = some id)
    (marked : body.mentions marker = true) : (s.setBody id body).firstId u = some id := by
  obtain ⟨c, found, rfl⟩ := Option.map_eq_some_iff.mp first
  obtain ⟨before, after, split, -, unmarked⟩ := exists_of_findMarked found
  unfold firstId
  rw [h.commentsOn_setBody_self split, findMarked_append_cons (c := ⟨c.id, body⟩) unmarked marked]
  rfl

/-- A new comment comes behind the first marked one. -/
theorem firstId_add_of_some (first : s.firstId u = some id) (v body : Text) :
    (s.add v body).firstId u = some id := by
  obtain ⟨c, found, rfl⟩ := Option.map_eq_some_iff.mp first
  unfold firstId Comment.findMarked Comment.find? at *
  rw [commentsOn_add, List.find?_append, found]
  rfl

/-- The first marked comment stays the first one if another comment is taken away. -/
theorem firstId_delete_of_ne {other : Nat} (first : s.firstId u = some id) (h : other ≠ id) :
    (s.delete other).firstId u = some id := by
  obtain ⟨c, found, rfl⟩ := Option.map_eq_some_iff.mp first
  obtain ⟨before, after, split, hc, unmarked⟩ := exists_of_findMarked found
  unfold firstId
  rw [commentsOn_delete, split, List.filter_append,
    List.filter_cons_of_pos (by simpa using h.symm),
    findMarked_append_cons (fun b hb => unmarked b (List.mem_filter.mp hb).1) hc]
  rfl

/-- The first marked comment of a subject stays the first one if that of some subject gets a marked
body. -/
theorem WellFormed.firstId_setBody_of_found (h : s.WellFormed) (first : s.firstId u = some id)
    (found : Comment.findMarked (s.commentsOn v) = some c) (marked : body.mentions marker = true) :
    (s.setBody c.id body).firstId u = some id := by
  by_cases hvu : v = u
  · subst hvu
    have same : c.id = id := by simpa [firstId, found] using first
    rw [same]
    exact h.firstId_setBody first marked
  · unfold firstId
    rw [h.commentsOn_setBody_of_ne (mem_of_findMarked found) hvu]
    exact first

/-- A comment that is added counts on its subject if it is marked. -/
theorem marks_add (s : Store) (v body u : Text) :
    (s.add v body).marks u =
      s.marks u + if v = u ∧ body.mentions marker = true then 1 else 0 := by
  unfold marks
  rw [commentsOn_add, List.countP_append]
  by_cases h : v = u <;> by_cases hb : body.mentions marker = true <;> simp [h, hb, Comment.holds]

/-- Deleting a comment adds no marked one. -/
theorem marks_delete_le (s : Store) (id : Nat) (u : Text) : (s.delete id).marks u ≤ s.marks u := by
  unfold marks
  rw [commentsOn_delete]
  exact List.filter_sublist.countP_le

/-- A new body for the first marked comment of a subject adds no marked comment anywhere. -/
theorem WellFormed.marks_setBody_le (h : s.WellFormed)
    (found : Comment.findMarked (s.commentsOn v) = some c) (body u : Text) :
    (s.setBody c.id body).marks u ≤ s.marks u := by
  by_cases huv : v = u
  · subst huv
    obtain ⟨before, after, split, hc, -⟩ := exists_of_findMarked found
    unfold marks
    rw [h.commentsOn_setBody_self split, split]
    simp only [List.countP_append, List.countP_cons, hc, if_true]
    split <;> omega
  · exact Nat.le_of_eq (congrArg _ (h.commentsOn_setBody_of_ne (mem_of_findMarked found) huv body))

end Store

end CoverageNote
