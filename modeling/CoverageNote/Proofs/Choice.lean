import CoverageNote.Proofs.Listing
import CoverageNote.Proofs.Lookup
import CoverageNote.Proofs.Peer

/-!
# The target by a listing of pull requests

A run looks for its target in the listing of the pull requests of its commit. `Posting.target_by_listing` says
which target that is for any text that comes back : the listing has entries (`PullRequest.isEntry`), the first
open one of them counts, or the first one if none is open (`Picked`), and its number is the pull request. If there
is no such number, or no text comes back, the target is the commit.

A member of a wrong kind and one that is missing are not the same here. With a number of a wrong kind an item is
no entry, and the next one can be the first. With no number it is one, and if it is picked there is no pull
request.
-/

namespace CoverageNote

/-! ## The first one that counts -/

section Picked

variable {α β : Type}

/-- Of these the first that is favoured is picked, or the first of all if none is. -/
inductive Picked (favoured : α → Bool) (items : List α) : α → Prop
  | favourite {before after : List α} {a : α} (split : items = before ++ a :: after)
    (others : ∀ b ∈ before, favoured b = false) (favourite : favoured a = true) : Picked favoured items a
  | first {rest : List α} {a : α} (split : items = a :: rest) (others : ∀ b ∈ items, favoured b = false) :
    Picked favoured items a

/-- What is picked is what the two searches find, one after the other. -/
theorem picked_iff {favoured : α → Bool} {items : List α} {a : α} :
    Picked favoured items a ↔ (items.find? favoured).or items.head? = some a := by
  constructor
  · rintro (⟨split, others, favourite⟩ | ⟨split, others⟩)
    · have found : items.find? favoured = some a :=
        List.find?_eq_some_iff_append.mpr ⟨favourite, _, _, split, by simpa using others⟩
      rw [found]
      rfl
    · have none : items.find? favoured = none := List.find?_eq_none.mpr (by simpa using others)
      rw [none, split]
      rfl
  · intro h
    cases found : items.find? favoured with
    | some b =>
      rw [found] at h
      cases h
      obtain ⟨favourite, before, after, split, others⟩ := List.find?_eq_some_iff_append.mp found
      exact .favourite split (by simpa using others) favourite
    | none =>
      rw [found, Option.none_or] at h
      obtain ⟨rest, split⟩ := List.head?_eq_some_iff.mp h
      exact .first split (by simpa using found)

theorem Picked.mem {favoured : α → Bool} {items : List α} {a : α} (h : Picked favoured items a) : a ∈ items := by
  rcases h with ⟨split, -, -⟩ | ⟨split, -⟩
  · rw [split]
    exact List.mem_append_right _ List.mem_cons_self
  · rw [split]
    exact List.mem_cons_self

/-- One that is not favoured is picked only if none is. -/
theorem Picked.favoured {favoured : α → Bool} {items : List α} {a : α} (h : Picked favoured items a)
    (some : ∃ b ∈ items, favoured b = true) : favoured a = true := by
  rcases h with ⟨-, -, favourite⟩ | ⟨-, others⟩
  · exact favourite
  · obtain ⟨b, inside, favourite⟩ := some
    rw [others b inside] at favourite
    cases favourite

theorem rel_head? {R : α → β → Prop} {items : List α} {items' : List β} (h : List.Forall₂ R items items') :
    Option.Rel R items.head? items'.head? := by
  cases h with
  | nil => exact .none
  | cons here _ => exact .some here

theorem rel_find? {R : α → β → Prop} {favoured : α → Bool} {favoured' : β → Bool}
    (same : ∀ a b, R a b → favoured a = favoured' b) {items : List α} {items' : List β}
    (h : List.Forall₂ R items items') : Option.Rel R (items.find? favoured) (items'.find? favoured') := by
  induction h with
  | nil => exact .none
  | @cons a b items items' here rest ih =>
    rw [List.find?_cons, List.find?_cons, ← same a b here]
    cases favoured a with
    | true => exact .some here
    | false => exact ih

/-- What stands for items in their order is picked as they are. -/
theorem rel_find?_or_head? {R : α → β → Prop} {favoured : α → Bool} {favoured' : β → Bool}
    (same : ∀ a b, R a b → favoured a = favoured' b) {items : List α} {items' : List β}
    (h : List.Forall₂ R items items') :
    Option.Rel R ((items.find? favoured).or items.head?) ((items'.find? favoured').or items'.head?) := by
  have found := rel_find? same h
  generalize items.find? favoured = one at found ⊢
  generalize items'.find? favoured' = other at found ⊢
  cases found with
  | none => exact rel_head? h
  | some here => exact .some here

end Picked

/-! ## Entries of a listing -/

theorem optionalPart_asNatural? {part : Option Json} {found : Option Nat}
    (h : optionalPart Json.asNatural? part = some found) (n : Nat) :
    found = some n ↔ part = some (.number (.natural n)) := by
  rcases optionalPart_cases h with ⟨rfl | rfl, rfl⟩ | ⟨value, m, rfl, read, rfl⟩
  · exact ⟨nofun, nofun⟩
  · exact ⟨nofun, nofun⟩
  · rw [Json.eq_of_asNatural? read]
    simp only [Option.some.injEq, Json.number.injEq, JsonNumber.natural.injEq]

namespace PullRequest

/-- Whether an item is an object whose number and state are of the kind of a pull request's, as far as it has
them. -/
def isEntry (item : Json) : Bool :=
  item.isObject && Json.isOptional Json.isNatural (item.member? "number".toList) &&
    Json.isOptional Json.isString (item.member? "state".toList)

/-- Whether an item says of itself that it is open. -/
def isOpenEntry (item : Json) : Bool :=
  match item.member? "state".toList with
  | some (.string state) => state = "open".toList
  | _ => false

/-- The pull request has the number of the item, and is open if the item says so. -/
structure ReadFrom (item : Json) (pull : PullRequest) : Prop where
  number (n : Nat) : pull.number = some n ↔ item.member? "number".toList = some (.number (.natural n))
  isOpen : isOpenEntry item = pull.isOpen

theorem isSome_ofParts? (number state : Option Json) :
    (ofParts? number state).isSome =
      (Json.isOptional Json.isNatural number && Json.isOptional Json.isString state) := by
  have optionalNumber := isSome_optionalPart Json.asNatural? number
  have optionalState := isSome_optionalPart Json.asText? state
  rw [funext Json.isSome_asNatural?] at optionalNumber
  rw [funext Json.isSome_asText?] at optionalState
  rw [← optionalNumber, ← optionalState]
  unfold ofParts?
  cases optionalPart Json.asNatural? number <;> cases optionalPart Json.asText? state <;> rfl

/-- An entry that is no array is read exactly if it has the form of one. -/
theorem isSome_ofJson? {item : Json} (flat : item.isArray = false) :
    (ofJson? item).isSome = isEntry item := by
  cases item with
  | object members => exact isSome_ofParts? _ _
  | array items => cases flat
  | null | bool _ | number _ | string _ => rfl

theorem ofJson?_eq_none {item : Json} (flat : item.isArray = false) (h : isEntry item = false) :
    ofJson? item = none := by
  rw [← Option.not_isSome_iff_eq_none, isSome_ofJson? flat, h]
  exact Bool.false_ne_true

/-- What is read from an entry stands in it. -/
theorem readFrom_of_ofJson? {item : Json} (flat : item.isArray = false) {pull : PullRequest}
    (h : ofJson? item = some pull) : ReadFrom item pull := by
  cases item with
  | object members =>
    obtain ⟨number, hnumber, h⟩ := Option.bind_eq_some_iff.mp h
    obtain ⟨state, hstate, h⟩ := Option.bind_eq_some_iff.mp h
    cases h
    refine ⟨optionalPart_asNatural? hnumber, ?_⟩
    unfold isOpenEntry PullRequest.isOpen
    rcases optionalPart_cases hstate with ⟨missing | missing, rfl⟩ | ⟨value, text, given, read, rfl⟩
    · rw [missing]
      rfl
    · rw [missing]
      rfl
    · rw [given, Json.eq_of_asText? read]
      exact decide_eq_decide.mpr Option.some_inj.symm
  | array items => cases flat
  | null | bool _ | number _ | string _ => cases h

/-- The chosen number is that of the picked entry. -/
theorem choose_eq_some_iff {entries : List Json} {pulls : List PullRequest}
    (h : List.Forall₂ ReadFrom entries pulls) {n : Nat} :
    choose pulls = some n ↔ ∃ entry, Picked isOpenEntry entries entry ∧
      entry.member? "number".toList = some (.number (.natural n)) ∧ 1 ≤ n := by
  have related := rel_find?_or_head? (fun _ _ read => read.isOpen) h
  simp only [picked_iff]
  unfold choose
  generalize (entries.find? isOpenEntry).or entries.head? = picked at related ⊢
  generalize (pulls.find? PullRequest.isOpen).or pulls.head? = chosen at related ⊢
  cases related with
  | none => simp
  | some read => simp [Option.filter_eq_some_iff, read.number, Nat.succ_le_iff]

/-- Items with further ones between them that are neither entries nor arrays. -/
inductive Padded : List Json → List Json → Prop
  | nil : Padded [] []
  | keep (item : Json) {items padded : List Json} (rest : Padded items padded) :
    Padded (item :: items) (item :: padded)
  | insert {item : Json} (flat : item.isArray = false) (other : isEntry item = false)
    {items padded : List Json} (rest : Padded items padded) : Padded items (item :: padded)

/-- Items that are no entries change nothing about what is read from a listing. -/
theorem ofListing_padded {items padded : List Json} (h : Padded items padded) :
    ofListing (some (.array padded)) = ofListing (some (.array items)) := by
  show padded.filterMap ofJson? = items.filterMap ofJson?
  induction h with
  | nil => rfl
  | keep item _ ih => rw [List.filterMap_cons, List.filterMap_cons, ih]
  | insert flat other _ ih => rw [List.filterMap_cons_none (ofJson?_eq_none flat other), ih]

/-! ## Texts of a listing -/

/-- No item of the listing is an array. -/
def Flat (text : Text) : Prop :=
  ∀ items, Json.parse? text = some (.array items) → ∀ item ∈ items, item.isArray = false

/-- The text is a listing whose picked entry has this number, which is not 0. -/
def Named (text : Text) (n : Nat) : Prop :=
  ∃ items, Json.parse? text = some (.array items) ∧ ∃ entry,
    Picked isOpenEntry (items.filter isEntry) entry ∧
      entry.member? "number".toList = some (.number (.natural n)) ∧ 1 ≤ n

/-- What is chosen from a text is what it names. -/
theorem choose_ofListing_eq_some_iff {text : Text} (flat : Flat text) {n : Nat} :
    choose (ofListing (Json.parse? text)) = some n ↔ Named text n := by
  unfold Named
  cases parsed : Json.parse? text with
  | none => simp [choose, ofListing, listing]
  | some value =>
    cases value with
    | array items =>
      have inside := flat items parsed
      have entries : List.Forall₂ ReadFrom (items.filter isEntry) (ofListing (some (.array items))) :=
        forall₂_filterMap (fun item h => isSome_ofJson? (inside item h))
          fun item h pull read => readFrom_of_ofJson? (inside item h) read
      rw [choose_eq_some_iff entries]
      simp only [Option.some.injEq, Json.array.injEq, exists_eq_left']
    | null | bool _ | number _ | string _ | object _ => simp [choose, ofListing, listing]

end PullRequest

/-! ## The text that comes back -/

namespace Json

theorem ne_of_isBlank {c d : Char} (blank : isBlank c = true) (h : isBlank d = false) : c ≠ d := by
  rintro rfl
  rw [blank] at h
  cases h

/-- No value begins with a blank character. -/
theorem scalar?_of_isBlank {c : Char} (blank : isBlank c = true) (t : Text) : scalar? (c :: t) = none := by
  have quote : c ≠ '"' := ne_of_isBlank blank (by decide)
  have minus : c ≠ '-' := ne_of_isBlank blank (by decide)
  have digit : c.isDigit = false := isDigit_eq_false_of_isBlank blank
  have word : word? (c :: t) = none := by
    have n : 'n' ≠ c := (ne_of_isBlank blank (by decide)).symm
    have t : 't' ≠ c := (ne_of_isBlank blank (by decide)).symm
    have f : 'f' ≠ c := (ne_of_isBlank blank (by decide)).symm
    simp [word?, Text.dropHead?, n, t, f]
  simp [scalar?, digit, word]

/-- Where nothing but blank characters stands there is no value. -/
theorem parse?_of_isAllBlank {t : Text} (blank : t.isAllBlank = true) : parse? t = none := by
  have value : value? maxDepth t = none := by
    rw [maxDepth, value?]
    cases left : skip t with
    | nil => rfl
    | cons c rest =>
      -- The reader skips fewer characters than there are blank ones, so the next one can be blank.
      have next : c ∈ skip t := left ▸ List.mem_cons_self
      have inside : c ∈ t := (List.dropWhile_suffix isSpace).subset next
      have first : isBlank c = true := List.all_eq_true.mp blank c inside
      have bracket : c ≠ '[' := ne_of_isBlank first (by decide)
      have brace : c ≠ '{' := ne_of_isBlank first (by decide)
      simp [bracket, brace, scalar?_of_isBlank first rest]
  rw [parse?, value]

end Json

namespace Http

variable {σ : Type}

theorem Client.valueOf_eq_parse? (response : Response) :
    Client.valueOf response = Json.parse? response.text := by
  unfold Client.valueOf
  split
  · next blank => exact (Json.parse?_of_isAllBlank blank).symm
  · rfl

/-- The text that comes back for a call, if the request can be made and there is a complete response that says
that it was carried out. -/
def Client.heard? (c : Client) (network : Network σ) (call : Call) (s : σ) : Option Text :=
  (c.requestOf call).toOption.bind fun request =>
    ((network.exchange request s).result.toOption.filter fun response =>
      response.complete && isSuccess response.status).map Response.text

/-- The answer to a call is what its text means. Without a text the call fails. -/
theorem Client.toOption_call (c : Client) (network : Network σ) (call : Call) (s : σ) :
    (c.call network call s).1.toOption =
      (c.heard? network call s).map fun text => answerOf call (Json.parse? text) := by
  unfold Client.call Client.request Client.heard? Client.requestOf
  dsimp only
  cases c.build (methodOf call) (c.pathOf call) (call.body?.map payload) with
  | error problem => rfl
  | ok request =>
    simp only [Except.toOption, Option.bind_some]
    cases (network.exchange request s).result with
    | error problem => rfl
    | ok response =>
      simp only [conclude, valueOf_eq_parse?]
      cases complete : response.complete <;> cases success : isSuccess response.status <;>
        simp [complete, success, Except.map, Option.filter]

end Http

/-! ## The target -/

namespace Posting

/-- The target is a pull request exactly if it is chosen. -/
theorem targetOf_eq_pullRequest_iff {sha : Text} {pulls : List PullRequest} {n : Nat} :
    targetOf sha pulls = .pullRequest n ↔ PullRequest.choose pulls = some n := by
  unfold targetOf
  cases PullRequest.choose pulls <;> simp

theorem targetOf_of_choose_eq_none {sha : Text} {pulls : List PullRequest}
    (h : PullRequest.choose pulls = none) : targetOf sha pulls = .commit sha := by
  unfold targetOf
  rw [h]

/-- The target is decided by the pull requests that are listed, and none are if the listing fails. -/
theorem result_target {σ ε : Type} (world : World σ ε) (sha : Text) (s : σ) :
    ((target sha).run world s).result =
      targetOf sha ((world.answer (.call (.listPullRequests sha)) s).1.toOption.getD []) := by
  rw [target_eq, run_lookup]

section Network

variable {σ : Type} (network : Http.Network σ) (settings : Settings) (report : Except Failure Text)
  (sha : Text)

/-- The text of the listing that comes back over the network. -/
def listed? (s : σ) : Option Text :=
  (Http.Client.ofSettings settings).heard? network (.listPullRequests sha) s

/-- The target that is found over the network. -/
def targetOver (s : σ) : Target :=
  ((target sha).run (Http.world network (.ok settings) report) s).result

/-- Over a network the target is decided by the text that answers the listing. -/
theorem targetOver_eq (s : σ) :
    targetOver network settings report sha s =
      targetOf sha (((listed? network settings sha s).map fun text =>
        PullRequest.ofListing (Json.parse? text)).getD []) := by
  unfold targetOver listed?
  rw [result_target]
  have answered := (Http.Client.ofSettings settings).toOption_call network (.listPullRequests sha) s
  exact congrArg (fun pulls : Option (List PullRequest) => targetOf sha (pulls.getD [])) answered

/-- The target for a listing is the pull request that it names, or else the commit, and without a listing it is
the commit. So an open entry leaves no choice but an open one, and what stands between the entries makes no
difference. Said of listings without arrays as items. -/
theorem target_by_listing (s : σ) :
    (listed? network settings sha s = none → targetOver network settings report sha s = .commit sha) ∧
    (∀ text, listed? network settings sha s = some text → PullRequest.Flat text →
      (∀ n, targetOver network settings report sha s = .pullRequest n ↔ PullRequest.Named text n) ∧
      ((¬∃ n, PullRequest.Named text n) → targetOver network settings report sha s = .commit sha) ∧
      ∀ items, Json.parse? text = some (.array items) →
        (∃ entry ∈ items.filter PullRequest.isEntry, PullRequest.isOpenEntry entry = true) →
        ∀ n, targetOver network settings report sha s = .pullRequest n →
          ∃ entry ∈ items.filter PullRequest.isEntry, PullRequest.isOpenEntry entry = true ∧
            entry.member? "number".toList = some (.number (.natural n))) ∧
    ∀ s' text text' items padded, listed? network settings sha s = some text →
      listed? network settings sha s' = some text' → Json.parse? text = some (.array items) →
      Json.parse? text' = some (.array padded) → PullRequest.Padded items padded →
      targetOver network settings report sha s' = targetOver network settings report sha s := by
  refine ⟨fun unheard => ?_, fun text heard flat => ?_, ?_⟩
  · rw [targetOver_eq, unheard]
    rfl
  · have found : targetOver network settings report sha s =
        targetOf sha (PullRequest.ofListing (Json.parse? text)) := by
      rw [targetOver_eq, heard]
      rfl
    have names (n : Nat) : targetOver network settings report sha s = .pullRequest n ↔
        PullRequest.Named text n := by
      rw [found, targetOf_eq_pullRequest_iff, PullRequest.choose_ofListing_eq_some_iff flat]
    refine ⟨names, fun nameless => ?_, fun items parsed someOpen n chosen => ?_⟩
    · rw [found]
      refine targetOf_of_choose_eq_none (Option.eq_none_iff_forall_ne_some.mpr fun n chosen => ?_)
      exact nameless ⟨n, (PullRequest.choose_ofListing_eq_some_iff flat).mp chosen⟩
    · obtain ⟨items', parsed', entry, picked, number, -⟩ := (names n).mp chosen
      cases parsed.symm.trans parsed'
      exact ⟨entry, picked.mem, picked.favoured someOpen, number⟩
  · intro s' text text' items padded heard heard' parsed parsed' pad
    rw [targetOver_eq, targetOver_eq, heard, heard']
    simp only [Option.map_some, Option.getD_some, parsed, parsed', PullRequest.ofListing_padded pad]

end Network

/-- A peer that never answers, and one that lists a pull request that is closed and one that is open. In a second
listing a text and an item with a text for its number stand before them, and neither is an entry. -/
theorem target_by_listing_mixed :
    let number := "number".toList
    let state := "state".toList
    let settings := settingsFor "http://[::1]".toList "c".toList
    let report : Except Failure Text := .error (.plain "no go".toList)
    let peer (listing : Json) : List (Option Http.Response) := [some ⟨200, [], Utf8.encode listing.text, true⟩]
    let found := targetOver (.scripted .plain) settings report "c".toList
    let items : List Json :=
      [.object [(number, .number (.natural 5)), (state, .string "closed".toList)],
        .object [(number, .number (.natural 9)), (state, .string "open".toList)]]
    let padded : List Json :=
      .object [(number, .string "7".toList), (state, .string "open".toList)] :: .string "open".toList :: items
    listed? (.scripted .plain) settings "c".toList [none] = none ∧ found [none] = .commit "c".toList ∧
      listed? (.scripted .plain) settings "c".toList (peer (.array items)) = some (Json.array items).text ∧
      PullRequest.Flat (Json.array items).text ∧ PullRequest.Named (Json.array items).text 9 ∧
      found (peer (.array items)) = .pullRequest 9 ∧
      PullRequest.Padded items padded ∧ found (peer (.array padded)) = .pullRequest 9 := by
  intro number state settings report peer found items padded
  have unheard : listed? (.scripted .plain) settings "c".toList [none] = none := by decide +kernel
  have heard : listed? (.scripted .plain) settings "c".toList (peer (.array items)) = some (Json.array items).text := by
    decide +kernel
  have heard' : listed? (.scripted .plain) settings "c".toList (peer (.array padded)) =
      some (Json.array padded).text := by
    decide +kernel
  have parsed : Json.parse? (Json.array items).text = some (.array items) := by rfl
  have parsed' : Json.parse? (Json.array padded).text = some (.array padded) := by rfl
  have flat : PullRequest.Flat (Json.array items).text := by
    intro items' again item inside
    cases parsed.symm.trans again
    revert item
    simp [items, Json.isArray]
  have named : PullRequest.Named (Json.array items).text 9 :=
    ⟨items, parsed, _, picked_iff.mpr rfl, rfl, by decide⟩
  have pad : PullRequest.Padded items padded :=
    .insert rfl (by decide) (.insert rfl rfl (.keep _ (.keep _ .nil)))
  obtain ⟨without, -, -⟩ := target_by_listing (.scripted .plain) settings report "c".toList [none]
  obtain ⟨-, by_text, by_padding⟩ :=
    target_by_listing (.scripted .plain) settings report "c".toList (peer (.array items))
  have nine : found (peer (.array items)) = .pullRequest 9 := ((by_text _ heard flat).1 9).mpr named
  exact ⟨unheard, without unheard, heard, flat, named, nine, pad,
    (by_padding _ _ _ _ _ heard heard' parsed parsed' pad).trans nine⟩

end Posting

end CoverageNote
