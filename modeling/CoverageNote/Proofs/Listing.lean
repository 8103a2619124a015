import CoverageNote.Host.Listing
import Mathlib.Data.List.Forall2

/-!
# Listings, item by item

A listing is read item by item, and what an item is read as depends on nothing but that item. So the comments of
a listing are those of its entries, in order (`Comment.ofListing_itemwise`) : an entry is an object whose id is an
integer of 64 bits without sign and whose body is a text, null or missing (`Comment.isEntry`). Items of another
kind are passed over, and other members are not looked at.

An item that is itself an array can be read as well, as the parts of a comment in their order; what is said here
is said of the others.
-/

namespace CoverageNote

/-! ## Parts of an item -/

namespace Json

/-- Whether a value is an array. -/
def isArray : Json → Bool
  | array _ => true
  | _ => false

/-- Whether a value is an object. -/
def isObject : Json → Bool
  | object _ => true
  | _ => false

/-- Whether a value is a text. -/
def isString : Json → Bool
  | string _ => true
  | _ => false

/-- Whether a value is an integer from 0 to `2 ^ 64 - 1`. -/
def isNatural : Json → Bool
  | number (.natural n) => n < 2 ^ 64
  | _ => false

/-- Whether a part is missing or null, or else fits. -/
def isOptional (fits : Json → Bool) : Option Json → Bool
  | none | some null => true
  | some value => fits value

/-- A value is read as a natural number exactly if it is one. -/
theorem isSome_asNatural? (value : Json) : value.asNatural?.isSome = value.isNatural := by
  have bound (n : Nat) : n ≤ JsonNumber.maxNatural ↔ n < 2 ^ 64 := by
    unfold JsonNumber.maxNatural
    omega
  cases value with
  | number n =>
    cases n with
    | natural n =>
      simp only [asNatural?, isNatural, bound]
      split <;> simp_all
    | negative n | float bits => rfl
  | null | bool _ | string _ | array _ | object _ => rfl

theorem isSome_asText? (value : Json) : value.asText?.isSome = value.isString := by
  cases value <;> rfl

theorem eq_of_asNatural? {value : Json} {n : Nat} (h : value.asNatural? = some n) :
    value = .number (.natural n) := by
  unfold asNatural? at h
  split at h
  · split at h
    · cases h
      rfl
    · cases h
  · cases h

theorem eq_of_asText? {value : Json} {t : Text} (h : value.asText? = some t) : value = .string t := by
  cases value <;> cases h
  rfl

end Json

variable {α β : Type}

/-- An optional part is read exactly if it is not there or can be read. -/
theorem isSome_optionalPart (read : Json → Option α) (part : Option Json) :
    (optionalPart read part).isSome = Json.isOptional (fun value => (read value).isSome) part := by
  unfold optionalPart Json.isOptional
  split <;> simp

/-- An optional part is not there, or it is null, or it is read. -/
theorem optionalPart_cases {read : Json → Option α} {part : Option Json} {found : Option α}
    (h : optionalPart read part = some found) :
    (part = none ∨ part = some .null) ∧ found = none ∨
      ∃ value a, part = some value ∧ read value = some a ∧ found = some a := by
  unfold optionalPart at h
  split at h
  · cases h
    exact .inl ⟨.inl rfl, rfl⟩
  · cases h
    exact .inl ⟨.inr rfl, rfl⟩
  · next value _ =>
    obtain ⟨a, read, rfl⟩ := Option.map_eq_some_iff.mp h
    exact .inr ⟨value, a, rfl, read, rfl⟩

/-! ## Items of a listing -/

/-- Where those items are read that fit, what is read stands for them in their order. -/
theorem forall₂_filterMap {read : α → Option β} {fits : α → Bool} {R : α → β → Prop} {items : List α}
    (exact : ∀ a ∈ items, (read a).isSome = fits a)
    (sound : ∀ a ∈ items, ∀ b, read a = some b → R a b) :
    List.Forall₂ R (items.filter fits) (items.filterMap read) := by
  induction items with
  | nil => exact .nil
  | cons a items ih =>
    have rest := ih (fun b hb => exact b (List.mem_cons_of_mem a hb))
      fun b hb => sound b (List.mem_cons_of_mem a hb)
    have first := exact a List.mem_cons_self
    cases found : read a with
    | none =>
      rw [List.filterMap_cons_none found, List.filter_cons_of_neg (by simp [← first, found])]
      exact rest
    | some b =>
      rw [List.filterMap_cons_some found, List.filter_cons_of_pos (by simp [← first, found])]
      exact .cons (sound a List.mem_cons_self b found) rest

/-- Of items before and behind another one the same is read whatever stands there, if it is read the same. -/
theorem filterMap_congr_middle {read : α → Option β} {a a' : α} (same : read a = read a')
    (before after : List α) :
    (before ++ a :: after).filterMap read = (before ++ a' :: after).filterMap read := by
  rw [List.filterMap_append, List.filterMap_append, List.filterMap_cons, List.filterMap_cons, same]

/-- An item that is not read changes nothing about what is read from the others. -/
theorem filterMap_append_cons_none {read : α → Option β} {a : α} (unread : read a = none)
    (before after : List α) :
    (before ++ a :: after).filterMap read = (before ++ after).filterMap read := by
  rw [List.filterMap_append, List.filterMap_append, List.filterMap_cons_none unread]

/-! ## Comments -/

namespace Comment

/-- Whether an item is an object with the id of a comment and with a body that is one or may be left out. -/
def isEntry (item : Json) : Bool :=
  item.isObject && (item.member? "id".toList).any Json.isNatural &&
    Json.isOptional Json.isString (item.member? "body".toList)

/-- The comment has the id and the body of the item. A body that is missing or null is empty. -/
structure ReadFrom (item : Json) (comment : Comment) : Prop where
  id : item.member? "id".toList = some (.number (.natural comment.id))
  body : item.member? "body".toList = some (.string comment.body) ∨
    (item.member? "body".toList = none ∨ item.member? "body".toList = some .null) ∧ comment.body = []

theorem isSome_ofParts? (id body : Option Json) :
    (ofParts? id body).isSome = (id.any Json.isNatural && Json.isOptional Json.isString body) := by
  have optional := isSome_optionalPart Json.asText? body
  rw [funext Json.isSome_asText?] at optional
  rw [← optional]
  unfold ofParts?
  cases id with
  | none => rfl
  | some id =>
    rw [Option.any_some, ← Json.isSome_asNatural?]
    cases hid : id.asNatural? <;> cases optionalPart Json.asText? body <;> simp [hid]

/-- An entry that is no array is read exactly if it has the form of one. -/
theorem isSome_ofJson? {item : Json} (flat : item.isArray = false) :
    (ofJson? item).isSome = isEntry item := by
  cases item with
  | object members => exact isSome_ofParts? _ _
  | array items => cases flat
  | null | bool _ | number _ | string _ => rfl

theorem ofJson?_eq_none {item : Json} (flat : item.isArray = false) (h : isEntry item = false) :
    ofJson? item = none := by
  rw [← Option.not_isSome_iff_eq_none, isSome_ofJson? flat, h]
  exact Bool.false_ne_true

/-- What is read from an entry stands in it. -/
theorem readFrom_of_ofJson? {item : Json} (flat : item.isArray = false) {comment : Comment}
    (h : ofJson? item = some comment) : ReadFrom item comment := by
  cases item with
  | object members =>
    obtain ⟨id, hid, h⟩ := Option.bind_eq_some_iff.mp h
    obtain ⟨body, hbody, h⟩ := Option.bind_eq_some_iff.mp h
    cases h
    obtain ⟨value, named, read⟩ := Option.bind_eq_some_iff.mp hid
    refine ⟨named.trans (congrArg some (Json.eq_of_asNatural? read)), ?_⟩
    rcases optionalPart_cases hbody with ⟨missing, rfl⟩ | ⟨value, text, given, read, rfl⟩
    · exact .inr ⟨missing, rfl⟩
    · exact .inl (given.trans (congrArg some (Json.eq_of_asText? read)))
  | array items => cases flat
  | null | bool _ | number _ | string _ => cases h

/-- The comments of a listing are those of its entries, in order, each with the id and the body of its entry,
and a value that is no array has none. So a listing of two parts has the comments of both, an item that is no
entry makes no difference, and neither do members with other names. -/
theorem ofListing_itemwise :
    (∀ items : List Json, (∀ item ∈ items, item.isArray = false) →
      List.Forall₂ ReadFrom (items.filter isEntry) (ofListing (some (.array items)))) ∧
    (∀ value, (∀ items, value ≠ some (.array items)) → ofListing value = []) ∧
    (∀ first second, ofListing (some (.array (first ++ second))) =
      ofListing (some (.array first)) ++ ofListing (some (.array second))) ∧
    (∀ before item after, item.isArray = false → isEntry item = false →
      ofListing (some (.array (before ++ item :: after))) = ofListing (some (.array (before ++ after)))) ∧
    ∀ before members members' after,
      (∀ name ∈ ["id".toList, "body".toList],
        (Json.object members).member? name = (Json.object members').member? name) →
      ofListing (some (.array (before ++ .object members :: after))) =
        ofListing (some (.array (before ++ .object members' :: after))) := by
  refine ⟨fun items flat => ?_, fun value other => ?_, fun first second => ?_,
    fun before item after flat none => ?_, fun before members members' after same => ?_⟩
  · exact forall₂_filterMap (fun item inside => isSome_ofJson? (flat item inside))
      fun item inside comment read => readFrom_of_ofJson? (flat item inside) read
  · unfold ofListing listing
    split
    · next items => exact absurd rfl (other items)
    · rfl
  · exact List.filterMap_append
  · exact filterMap_append_cons_none (ofJson?_eq_none flat none) before after
  · have id := same _ (.head _)
    have body := same _ (.tail _ (.head _))
    refine filterMap_congr_middle ?_ before after
    unfold ofJson?
    dsimp only
    rw [id, body]

/-- Ids at the end of the range and beyond it, and items and bodies of a wrong kind. -/
theorem ofListing_itemwise_mixed :
    let id := "id".toList
    let body := "body".toList
    let items : List Json :=
      [.object [(body, .string "b".toList), (id, .number (.natural 7)), ("user".toList, .array [])],
        .object [(body, .string "no id".toList)], .string "garbage".toList,
        .object [(id, .number (.natural (2 ^ 64 - 1))), (body, .null)],
        .object [(id, .number (.negative 1))], .object [(id, .number (.float 0x3FF0000000000000))],
        .object [(id, .number (.natural 3)), (body, .number (.natural 1))], .null,
        .object [(id, .number (.natural 8))]]
    (∀ item ∈ items, item.isArray = false) ∧
      List.Forall₂ ReadFrom (items.filter isEntry) (ofListing (some (.array items))) ∧
      ofListing (some (.array items)) = [⟨7, "b".toList⟩, ⟨2 ^ 64 - 1, []⟩, ⟨8, []⟩] := by
  intro id body items
  have flat : ∀ item ∈ items, item.isArray = false := by simp [items, Json.isArray]
  exact ⟨flat, ofListing_itemwise.1 items flat, by decide⟩

end Comment

end CoverageNote
