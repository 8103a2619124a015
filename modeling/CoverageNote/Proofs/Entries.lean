import CoverageNote.Proofs.Choice
import CoverageNote.Proofs.Conversation

/-!
# What counts as an entry of a listing

An item of a listing is read by the names of its members, or, if it is an array, by the order of its parts. So an
array of exactly the parts stands for an object (`PullRequest.object?`, `Comment.object?`), and a listing is read as
that of its entries : objects count, arrays of the right length count as the objects they stand for, and nothing
else does (`PullRequest.ofListing_entries`, `Comment.ofListing_entries`).

`Posting.changed_is_listed` says, beside this, where the id of a comment comes from that a run changes : it is the id
of an entry of the listing of comments that the run has heard.
-/

namespace CoverageNote

/-! ## Items and entries -/

section Entries

variable {α : Type} {read : Json → Option α} {object? : Json → Option Json}

variable (same : ∀ item, read item = (object? item).bind read)
include same

/-- If items are read by their entries, so is a listing. -/
theorem filterMap_entries (items : List Json) :
    items.filterMap read = (items.filterMap object?).filterMap read := by
  rw [List.filterMap_filterMap]
  exact List.filterMap_congr fun item _ => same item

/-- An item that stands for no entry can be left out. -/
theorem filterMap_skip {item : Json} (none : object? item = none) (before after : List Json) :
    (before ++ item :: after).filterMap read = (before ++ after).filterMap read :=
  filterMap_append_cons_none ((same item).trans (none ▸ rfl)) before after

end Entries

namespace PullRequest

/-- The object that an item stands for : an object for itself, and an array of a number and a state for the object
that has them. -/
def object? : Json → Option Json
  | .object members => some (.object members)
  | .array [number, state] => some (.object [("number".toList, number), ("state".toList, state)])
  | _ => none

theorem ofJson?_eq_bind (item : Json) : ofJson? item = (object? item).bind ofJson? := by
  unfold object?
  split
  · rfl
  · rfl
  · next object array =>
    unfold ofJson?
    split
    · exact absurd rfl (object _)
    · exact absurd rfl (array _ _)
    · rfl

/-- A listing is read as that of its entries. -/
theorem ofListing_entries (items : List Json) :
    ofListing (some (.array items)) = ofListing (some (.array (items.filterMap object?))) :=
  filterMap_entries ofJson?_eq_bind items

theorem object?_eq_none {item : Json} (other : item.isObject = false)
    (array : ∀ number state, item ≠ .array [number, state]) : object? item = none := by
  unfold object?
  split
  · cases other
  · exact absurd rfl (array _ _)
  · rfl

end PullRequest

namespace Comment

/-- The object that an item stands for : an object for itself, and an array of an id, with or without a body, for
the object that has them. -/
def object? : Json → Option Json
  | .object members => some (.object members)
  | .array [id] => some (.object [("id".toList, id)])
  | .array [id, body] => some (.object [("id".toList, id), ("body".toList, body)])
  | _ => none

theorem ofJson?_eq_bind (item : Json) : ofJson? item = (object? item).bind ofJson? := by
  unfold object?
  split
  · rfl
  · rfl
  · rfl
  · next object single pair =>
    unfold ofJson?
    split
    · exact absurd rfl (object _)
    · exact absurd rfl (single _)
    · exact absurd rfl (pair _ _)
    · rfl

/-- A listing is read as that of its entries. -/
theorem ofListing_entries (items : List Json) :
    ofListing (some (.array items)) = ofListing (some (.array (items.filterMap object?))) :=
  filterMap_entries ofJson?_eq_bind items

theorem object?_eq_none {item : Json} (other : item.isObject = false) (single : ∀ id, item ≠ .array [id])
    (pair : ∀ id body, item ≠ .array [id, body]) : object? item = none := by
  unfold object?
  split
  · cases other
  · exact absurd rfl (single _)
  · exact absurd rfl (pair _ _)
  · rfl

theorem isArray_of_object? {item entry : Json} (h : object? item = some entry) : entry.isArray = false := by
  unfold object? at h
  split at h <;> cases h <;> rfl

/-- Each comment of a listing is read from an entry. -/
theorem exists_entry_of_mem {items : List Json} {comment : Comment}
    (h : comment ∈ ofListing (some (.array items))) :
    ∃ item ∈ items, ∃ entry, object? item = some entry ∧ ReadFrom entry comment := by
  obtain ⟨item, inside, read⟩ := List.mem_filterMap.mp h
  rw [ofJson?_eq_bind] at read
  obtain ⟨entry, stands, read⟩ := Option.bind_eq_some_iff.mp read
  exact ⟨item, inside, entry, stands, readFrom_of_ofJson? (isArray_of_object? stands) read⟩

end Comment

/-! ## The comments that a run changes -/

/-- The id of the comment that a call changes, if it changes one. -/
def Call.changed? : Call → Option Nat
  | updatePullRequestComment id _ | updateCommitComment id _ => some id
  | _ => none

/-- The comments that came back, if comments were asked for. -/
def Exchange.comments : Exchange → List Comment
  | ⟨.call (.listPullRequestComments _), listed⟩ => listed.toOption.getD []
  | ⟨.call (.listCommitComments _), listed⟩ => listed.toOption.getD []
  | _ => []

namespace Posting

variable {σ ε : Type}

/-- The comment that is changed was found in the listing that comes first. -/
theorem Upserted.exists_listing {body : Text} {target : Target} {asked : List Exchange}
    {outcome : Except Failure Outcome} (put : Upserted body target asked outcome) {call : Call}
    (made : call ∈ asked.filterMap Exchange.call?) {id : Nat} (changed : call.changed? = some id) :
    ∃ listing rest, asked = listing :: rest ∧ call ∈ rest.filterMap Exchange.call? ∧
      ∃ comment, Comment.findMarked listing.comments = some comment ∧ comment.id = id := by
  cases put with
  | updatedPullRequest listed found | updatedOnCommit listed found =>
    rcases made with _ | ⟨_, made⟩
    · cases changed
    · cases List.mem_singleton.mp made
      exact ⟨_, _, rfl, made, _, found, Option.some.inj changed⟩
  | createdOnPullRequest listed absent | createdOnCommit listed absent =>
    rcases made with _ | ⟨_, made⟩
    · cases changed
    · cases List.mem_singleton.mp made
      cases changed
  | recreatedOnCommit listed found =>
    rcases made with _ | ⟨_, made⟩
    · cases changed
    · rcases made with _ | ⟨_, again⟩
      · exact ⟨_, _, rfl, .head _, _, found, Option.some.inj changed⟩
      · cases List.mem_singleton.mp again
        cases changed

/-- A run changes no comment but one that it found in the listing before. -/
theorem Conversation.exists_listing {dryRun : Bool} {asked : List Exchange}
    {result : Except Failure (Option Outcome)} (talk : Conversation dryRun asked result) {call : Call}
    (made : call ∈ asked.filterMap Exchange.call?) {id : Nat} (changed : call.changed? = some id) :
    ∃ before listing after, asked = before ++ listing :: after ∧ call ∈ after.filterMap Exchange.call? ∧
      ∃ comment, Comment.findMarked listing.comments = some comment ∧ comment.id = id := by
  cases talk with
  | unsettled failure => cases made
  | previewed dry detailed =>
    rw [List.filterMap_cons_none rfl, detailed.filterMap_call?] at made
    cases made
  | unconnected failure wet detailed =>
    rw [List.filterMap_append, List.filterMap_cons_none rfl, detailed.filterMap_call?] at made
    cases made
  | @published settings asked details pulls upserted outcome wet detailed put =>
    have calls : (⟨.settings, .ok settings⟩ :: asked ++ ⟨.connect settings, .ok ()⟩ ::
        ⟨.call (.listPullRequests settings.sha), pulls⟩ :: upserted).filterMap Exchange.call? =
          .listPullRequests settings.sha :: upserted.filterMap Exchange.call? := by
      rw [List.filterMap_append, List.filterMap_cons_none rfl, detailed.filterMap_call?]
      rfl
    rw [calls] at made
    rcases List.mem_cons.mp made with rfl | made
    · cases changed
    · obtain ⟨listing, rest, rfl, later, found⟩ := put.exists_listing made changed
      exact ⟨⟨.settings, .ok settings⟩ :: asked ++ [⟨.connect settings, .ok ()⟩,
        ⟨.call (.listPullRequests settings.sha), pulls⟩], listing, rest, by simp, later, found⟩

/-- The id is that of an entry that holds the marker, in the listing with this text. -/
def ListedIn (text : Text) (id : Nat) : Prop :=
  ∃ items, Json.parse? text = some (.array items) ∧ ∃ item ∈ items, ∃ entry,
    Comment.object? item = some entry ∧ ∃ comment, Comment.ReadFrom entry comment ∧
      comment.holds marker = true ∧ comment.id = id

theorem listedIn_of_findMarked {text : Text} {comment : Comment}
    (found : Comment.findMarked (Comment.ofListing (Json.parse? text)) = some comment) :
    ListedIn text comment.id := by
  have inside : comment ∈ Comment.ofListing (Json.parse? text) := List.mem_of_find?_eq_some found
  have marked : comment.holds marker = true := List.find?_some found
  unfold Comment.ofListing listing at inside
  split at inside
  · next items parsed =>
    obtain ⟨item, among, entry, stands, read⟩ := Comment.exists_entry_of_mem inside
    exact ⟨items, parsed, item, among, entry, stands, comment, read, marked, rfl⟩
  · cases inside

/-- Without a text there are no comments to find one among. -/
theorem exists_listedIn {heard : Option Text} {listed : Except Failure (List Comment)} {comment : Comment}
    (answered : listed.toOption = heard.map fun text => Comment.ofListing (Json.parse? text))
    (found : Comment.findMarked (listed.toOption.getD []) = some comment) :
    ∃ text, heard = some text ∧ ListedIn text comment.id := by
  rw [answered] at found
  cases heard with
  | none => cases found
  | some text => exact ⟨text, rfl, listedIn_of_findMarked found⟩

section Network

variable (network : Http.Network σ) (loaded : Except Failure Settings) (report : Except Failure Text)

/-- A comment that came back over the network was listed in a text that was heard. -/
theorem exists_heard {listing : Exchange} {s : σ} {comment : Comment}
    (answered : listing.answer = ((Http.world network loaded report).answer listing.question s).1)
    (found : Comment.findMarked listing.comments = some comment) :
    ∃ settings, ∃ target : Target, ∃ text, loaded = .ok settings ∧ listing.question = .call target.listing ∧
      (Http.Client.ofSettings settings).heard? network target.listing s = some text ∧ ListedIn text comment.id := by
  obtain ⟨question, answer⟩ := listing
  change answer = _ at answered
  cases question with
  | settings | report | connect given => cases found
  | call call =>
    cases loaded with
    | error failure =>
      change answer = .error failure at answered
      subst answered
      cases call <;> cases found
    | ok settings =>
      change answer = ((Http.Client.ofSettings settings).call network call s).1 at answered
      have heard := (Http.Client.ofSettings settings).toOption_call network call s
      rw [← answered] at heard
      cases call with
      | listPullRequestComments number =>
        obtain ⟨text, said, listed⟩ := exists_listedIn heard found
        exact ⟨settings, .pullRequest number, text, rfl, rfl, said, listed⟩
      | listCommitComments sha =>
        obtain ⟨text, said, listed⟩ := exists_listedIn heard found
        exact ⟨settings, .commit sha, text, rfl, rfl, said, listed⟩
      | listPullRequests | createPullRequestComment | updatePullRequestComment | createCommitComment
        | updateCommitComment => cases found

/-- Among what was asked is a listing of the comments on a target, in which an entry was heard to have this id, and
the call was made behind it. -/
inductive HeardBefore (s : σ) (asked : List Exchange) (call : Call) (id : Nat) : Prop
  | intro {settings : Settings} {before : List Exchange} {listing : Exchange} {after : List Exchange} {t : σ}
    {target : Target} {text : Text} (settled : loaded = .ok settings) (split : asked = before ++ listing :: after)
    (later : call ∈ after.filterMap Exchange.call?)
    (first : Replay (Http.world network loaded report) s before t)
    (question : listing.question = .call target.listing)
    (heard : (Http.Client.ofSettings settings).heard? network target.listing t = some text)
    (among : ListedIn text id)

theorem heardBefore_of_mem_calls (s : σ) (dryRun : Bool) {call : Call} {id : Nat}
    (made : call ∈ calls ((post dryRun).run (Http.world network loaded report) s).trace)
    (changed : call.changed? = some id) :
    HeardBefore network loaded report s (exchanges ((post dryRun).run (Http.world network loaded report) s).trace)
      call id := by
  have talk := conversation_post (Http.world network loaded report) s dryRun
  have replay := replay_run (Http.world network loaded report) (post dryRun) s
  obtain ⟨before, listing, after, split, later, comment, found, rfl⟩ := talk.exists_listing made changed
  rw [split] at replay
  obtain ⟨t, first, answered, -⟩ := replay.of_append
  obtain ⟨settings, target, text, settled, question, heard, among⟩ :=
    exists_heard network loaded report answered found
  exact .intro settled split later first question heard among

/-- A listing is read as that of its entries, and an item that is no object and no array of the parts makes no
difference to it. Whatever comment a run changes, its id is that of an entry with the marker, in a listing that the
run has heard before. -/
theorem changed_is_listed :
    (∀ items, PullRequest.ofListing (some (.array items)) =
        PullRequest.ofListing (some (.array (items.filterMap PullRequest.object?)))) ∧
      (∀ items, Comment.ofListing (some (.array items)) =
        Comment.ofListing (some (.array (items.filterMap Comment.object?)))) ∧
      (∀ (before : List Json) (item : Json) (after : List Json), item.isObject = false →
        (∀ number state, item ≠ .array [number, state]) →
          PullRequest.ofListing (some (.array (before ++ item :: after))) =
            PullRequest.ofListing (some (.array (before ++ after)))) ∧
      (∀ (before : List Json) (item : Json) (after : List Json), item.isObject = false →
        (∀ id, item ≠ .array [id]) → (∀ id body, item ≠ .array [id, body]) →
          Comment.ofListing (some (.array (before ++ item :: after))) =
            Comment.ofListing (some (.array (before ++ after)))) ∧
      ∀ (s : σ) (dryRun : Bool) (call : Call) (id : Nat),
        call ∈ calls ((post dryRun).run (Http.world network loaded report) s).trace →
        call.changed? = some id → HeardBefore network loaded report s
          (exchanges ((post dryRun).run (Http.world network loaded report) s).trace) call id := by
  refine ⟨PullRequest.ofListing_entries, Comment.ofListing_entries, fun before item after other array => ?_,
    fun before item after other single pair => ?_,
    fun s dryRun _ _ => heardBefore_of_mem_calls network loaded report s dryRun⟩
  · exact filterMap_skip PullRequest.ofJson?_eq_bind (PullRequest.object?_eq_none other array) before after
  · exact filterMap_skip Comment.ofJson?_eq_bind (Comment.object?_eq_none other single pair) before after

end Network

/-- Beside a text, a number and an array that is too long, a listing has a comment with the marker. -/
theorem changed_is_listed_mixed :
    let settings := settingsFor "http://[::1]".toList "c".toList
    let report : Except Failure Text := .error (.plain "no go".toList)
    let others : List Json := [.string "7".toList, .number (.natural 5), .array [.null, .null, .null]]
    let entry : Json := .object [("id".toList, .number (.natural 7)), ("body".toList, .string marker)]
    let queue : List (Option Http.Response) := [some ⟨200, [], Utf8.encode "[]".toList, true⟩,
      some ⟨200, [], Utf8.encode (Json.array (others ++ [entry])).text, true⟩]
    let world := Http.world (.scripted .plain) (.ok settings) report
    let r := (post false).run world queue
    let call : Call := .updateCommitComment 7 (body settings detailsUnavailable)
    (∀ item ∈ others, item.isObject = false ∧ (∀ id, item ≠ .array [id]) ∧ (∀ id body, item ≠ .array [id, body]) ∧
        Comment.ofListing (some (.array ([] ++ item :: [entry]))) = Comment.ofListing (some (.array [entry])) ∧
        PullRequest.ofListing (some (.array ([] ++ item :: [entry]))) =
          PullRequest.ofListing (some (.array [entry]))) ∧
      call ∈ calls r.trace ∧ call.changed? = some 7 ∧
      HeardBefore (.scripted .plain) (.ok settings) report queue (exchanges r.trace) call 7 := by
  intro settings report others entry queue world r call
  obtain ⟨-, -, pulls, comments, changed⟩ := changed_is_listed (.scripted .plain) (.ok settings) report
  have made : call ∈ calls r.trace := by decide +kernel
  refine ⟨?_, made, rfl, changed queue false call 7 made rfl⟩
  have skipped : ∀ item ∈ others, item.isObject = false ∧ (∀ id, item ≠ .array [id]) ∧
      ∀ id body, item ≠ .array [id, body] := by
    simp [others, Json.isObject]
  intro item inside
  obtain ⟨other, single, pair⟩ := skipped item inside
  exact ⟨other, single, pair, comments [] item [entry] other single pair, pulls [] item [entry] other pair⟩

/-- An array of the parts is an entry as well, so an item that is no object can make a difference, and a run changes
the comment that it stands for. -/
theorem changed_without_objects :
    let settings := settingsFor "http://[::1]".toList "c".toList
    let report : Except Failure Text := .error (.plain "no go".toList)
    let items : List Json := [.array [.number (.natural 7), .string marker]]
    let queue : List (Option Http.Response) := [some ⟨200, [], Utf8.encode "[]".toList, true⟩,
      some ⟨200, [], Utf8.encode (Json.array items).text, true⟩]
    let r := (post false).run (Http.world (.scripted .plain) (.ok settings) report) queue
    (¬∀ (before : List Json) (item : Json) (after : List Json), item.isObject = false →
        PullRequest.ofListing (some (.array (before ++ item :: after))) =
          PullRequest.ofListing (some (.array (before ++ after)))) ∧
      (¬∀ (before : List Json) (item : Json) (after : List Json), item.isObject = false →
        Comment.ofListing (some (.array (before ++ item :: after))) =
          Comment.ofListing (some (.array (before ++ after)))) ∧
      (∀ item ∈ items, item.isObject = false) ∧ ∃ call ∈ calls r.trace, call.changed? = some 7 := by
  intro settings report items queue r
  refine ⟨fun same => ?_, fun same => ?_, by simp [items, Json.isObject],
    .updateCommitComment 7 (body settings detailsUnavailable), by decide +kernel, rfl⟩
  · have none := same [] (.array [.number (.natural 9), .string "open".toList]) [] rfl
    exact absurd none (by decide)
  · have none := same [] (.array [.number (.natural 5)]) [] rfl
    exact absurd none (by decide)

end Posting

end CoverageNote
