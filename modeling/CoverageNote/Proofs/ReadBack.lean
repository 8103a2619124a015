import CoverageNote.Proofs.Choice
import CoverageNote.Proofs.JsonText

/-!
# Comments that were written are found again

The client writes the body of a comment into a JSON object, and reads comments from a JSON array that the host
writes. `Http.Client.comments_read_back` says that nothing is lost on either way, whatever characters the bodies
hold and however large the ids are. So a host that keeps what it is sent lists a comment in which the marker is
found.

A host may write the members of a comment in any order, and says in the content type, if it says anything there,
that the text is in UTF-8.
-/

namespace CoverageNote

/-! ## Comments as a host writes them -/

namespace Comment

/-- An item of a listing is an object with the id and the body of the comment, in either order. -/
inductive WrittenAs (comment : Comment) : Json → Prop
  | idFirst : WrittenAs comment (.object [("id".toList, .number (.natural comment.id)),
      ("body".toList, .string comment.body)])
  | bodyFirst : WrittenAs comment (.object [("body".toList, .string comment.body),
      ("id".toList, .number (.natural comment.id))])

section Item

variable {comment : Comment} {item : Json} (written : comment.WrittenAs item)
  (fits : comment.id ≤ JsonNumber.maxNatural)
include written

/-- Sorted, the body comes first. -/
theorem WrittenAs.sorted_eq : item.sorted =
    .object [("body".toList, .string comment.body), ("id".toList, .number (.natural comment.id))] := by
  cases written <;> rfl

include fits

theorem WrittenAs.readable (depth : Nat) : Json.Readable (depth + 1) item := by
  have id : Json.Readable depth (.number (.natural comment.id)) := .natural fits
  have body : Json.Readable depth (.string comment.body) := .string comment.body
  cases written <;> exact .object (by simp [id, body])

theorem WrittenAs.ofJson?_sorted : ofJson? item.sorted = some comment := by
  have id : Json.asNatural? (.number (.natural comment.id)) = some comment.id := if_pos fits
  rw [written.sorted_eq]
  show ofParts? (some (.number (.natural comment.id))) (some (.string comment.body)) = some comment
  rw [ofParts?, Option.bind_some, id]
  rfl

end Item

/-- A listing of comments, once it is written, is read as these comments. -/
theorem ofListing_written {comments : List Comment} {items : List Json}
    (written : List.Forall₂ WrittenAs comments items) (fits : ∀ comment ∈ comments, comment.id < 2 ^ 64) :
    ofListing (Json.parse? (Json.array items).text) = comments := by
  have each : (∀ item ∈ items, Json.Readable 126 item) ∧ (items.map Json.sorted).filterMap ofJson? = comments := by
    induction written with
    | nil => exact ⟨nofun, rfl⟩
    | @cons comment item comments items here _ ih =>
      obtain ⟨readable, read⟩ := ih fun other inside => fits other (List.mem_cons_of_mem _ inside)
      have small : comment.id ≤ JsonNumber.maxNatural := Nat.le_pred_of_lt (fits comment List.mem_cons_self)
      refine ⟨List.forall_mem_cons.mpr ⟨here.readable small 125, readable⟩, ?_⟩
      rw [List.map_cons, List.filterMap_cons_some (here.ofJson?_sorted small), read]
  have whole : Json.Readable Json.maxDepth (.array items) := .array each.1
  rw [Json.parse?_text whole, Json.sorted, Json.sortedItems_eq]
  exact each.2

/-- Among comments one of which holds the marker one is found that does. -/
theorem exists_findMarked {comments : List Comment} {comment : Comment} (inside : comment ∈ comments)
    (marked : comment.body.mentions marker = true) :
    ∃ found ∈ comments, findMarked comments = some found ∧ found.body.mentions marker = true := by
  have any : (comments.find? (holds marker)).isSome = true := List.find?_isSome.mpr ⟨comment, inside, marked⟩
  obtain ⟨found, first⟩ := Option.isSome_iff_exists.mp any
  have mark : found.holds marker = true := List.find?_some first
  exact ⟨found, List.mem_of_find?_eq_some first, first, mark⟩

end Comment

/-! ## On the way to the host and back -/

namespace Http

theorem parse?_payload (body : Text) :
    Json.parse? (Client.payload body).text = some (.object [("body".toList, .string body)]) := by
  have readable : Json.Readable Json.maxDepth (Client.payload body) :=
    .object (List.forall_mem_singleton.mpr (.string body))
  exact Json.parse?_text readable

/-- The body of a comment that a host takes from a request : the text of this name in the object that is sent. -/
def Request.posted? (r : Request) : Option Text :=
  ((r.body.bind Json.parse?).bind (Json.member? "body".toList)).bind Json.asText?

/-- A response that says that the request was carried out, with the items in UTF-8. -/
structure Response.Lists (r : Response) (items : List Json) : Prop where
  success : isSuccess r.status = true
  complete : r.complete = true
  /-- The content type names no charset, or it names UTF-8. -/
  charset : ∀ t ∈ r.header? "content-type".toList, ∀ label ∈ Charset.labelOf? t,
    Charset.ofName? label = some .utf8
  body : r.body = Utf8.encode (Json.array items).text

/-- A text that begins with a bracket begins with no byte order mark. -/
theorem Response.Lists.text_eq {r : Response} {items : List Json} (h : r.Lists items) :
    r.text = (Json.array items).text := by
  have charset : ((r.header? "content-type".toList).map Charset.ofContentType).getD .utf8 = .utf8 := by
    cases found : r.header? "content-type".toList with
    | none => rfl
    | some t =>
      show ((Charset.labelOf? t).bind Charset.ofName?).getD .utf8 = .utf8
      cases named : Charset.labelOf? t with
      | none => rfl
      | some label => rw [Option.bind_some, h.charset t found label named, Option.getD_some]
  have bytes : Utf8.encode (Json.array items).text =
      0x5B :: Utf8.encode (Json.itemsText items ++ [']']) := by
    rfl
  rw [Response.text, charset, h.body, bytes]
  show Utf8.decodeLossy (0x5B :: Utf8.encode (Json.itemsText items ++ [']'])) = _
  rw [← bytes, Utf8.decodeLossy_encode]

namespace Client

variable {σ : Type}

/-- What comes of listing the comments on a target. -/
def listed (c : Client) (network : Network σ) (s : σ) : Target → Except Failure (List Comment)
  | .pullRequest number => (c.call network (.listPullRequestComments number) s).1
  | .commit sha => (c.call network (.listCommitComments sha) s).1

/-- The host answers with these comments when it is asked for those on a target. -/
inductive Hears (c : Client) (network : Network σ) (s : σ) (target : Target) (comments : List Comment) : Prop
  | intro {items : List Json} {request : Request} {response : Response}
    (built : c.requestOf target.listing = .ok request)
    (answered : (network.exchange request s).result = .ok response)
    (lists : response.Lists items) (written : List.Forall₂ Comment.WrittenAs comments items)
    (fits : ∀ comment ∈ comments, comment.id < 2 ^ 64)

/-- A complete response that says that the request was carried out is the answer, by its text. -/
theorem call_of_exchange {c : Client} {network : Network σ} {s : σ} {call : Call} {request : Request}
    {response : Response} (built : c.requestOf call = .ok request)
    (answered : (network.exchange request s).result = .ok response)
    (success : isSuccess response.status = true) (complete : response.complete = true) :
    (c.call network call s).1 = .ok (answerOf call (Json.parse? response.text)) := by
  have heard : c.heard? network call s = some response.text := by
    simp [heard?, built, answered, success, complete, Except.toOption]
  have answer := c.toOption_call network call s
  rw [heard, Option.map_some] at answer
  cases result : (c.call network call s).1 with
  | error failure => rw [result] at answer; cases answer
  | ok value => rw [result] at answer; exact congrArg Except.ok (Option.some.inj answer)

theorem listed_of_hears {c : Client} {network : Network σ} {s : σ} {target : Target} {comments : List Comment}
    (hears : c.Hears network s target comments) : c.listed network s target = .ok comments := by
  obtain ⟨built, answered, lists, written, fits⟩ := hears
  have answer := call_of_exchange built answered lists.success lists.complete
  have read := Comment.ofListing_written written fits
  rw [← lists.text_eq] at read
  cases target with
  | pullRequest number => exact answer.trans (congrArg Except.ok read)
  | commit sha => exact answer.trans (congrArg Except.ok read)

/-- A request that writes holds an object with the body and with nothing else. -/
theorem body_of_requestOf {c : Client} {call : Call} {body : Text} {request : Request}
    (writes : call.body? = some body) (built : c.requestOf call = .ok request) :
    ∃ text, request.body = some text ∧ Json.parse? text = some (.object [("body".toList, .string body)]) := by
  refine ⟨(payload body).text, ?_, parse?_payload body⟩
  obtain ⟨url, parsed, -⟩ := build_eq_ok built
  unfold requestOf at built
  rw [build_of_parse _ _ parsed, writes] at built
  split at built
  · cases built
  split at built
  · cases built
  split at built
  · cases built
  · cases built
    rfl

theorem posted?_of_requestOf {c : Client} {call : Call} {body : Text} {request : Request}
    (writes : call.body? = some body) (built : c.requestOf call = .ok request) :
    request.posted? = some body := by
  obtain ⟨text, sent, read⟩ := body_of_requestOf writes built
  rw [Request.posted?, sent, Option.bind_some, read]
  rfl

/-- Whatever body a request writes, the JSON that is sent is read as an object with this body and nothing else, and
comments that a host lists are read with the ids and bodies they have. So where a host has taken over the body of a
request, and it holds the marker, a comment with the marker is found in what the host lists. -/
theorem comments_read_back :
    (∀ (c : Client) (call : Call) (body : Text) (request : Request), call.body? = some body →
      c.requestOf call = .ok request → request.posted? = some body ∧ ∃ text, request.body = some text ∧
        Json.parse? text = some (.object [("body".toList, .string body)])) ∧
    (∀ (c : Client) (network : Network σ) (s : σ) (target : Target) (comments : List Comment),
      c.Hears network s target comments → c.listed network s target = .ok comments) ∧
    ∀ (poster : Client) (call : Call) (body : Text) (request : Request) (stored : Comment),
      call.body? = some body → body.mentions marker = true → poster.requestOf call = .ok request →
      request.posted? = some stored.body →
      ∀ (c : Client) (network : Network σ) (s : σ) (target : Target) (comments : List Comment),
        stored ∈ comments → c.Hears network s target comments →
        ∃ listed found, c.listed network s target = .ok listed ∧ Comment.findMarked listed = some found ∧
          found ∈ comments ∧ found.body.mentions marker = true := by
  refine ⟨fun c call body request writes built => ?_, fun c network s target comments hears => ?_, ?_⟩
  · exact ⟨posted?_of_requestOf writes built, body_of_requestOf writes built⟩
  · exact listed_of_hears hears
  · intro poster call body request stored writes marked built taken c network s target comments inside hears
    rw [posted?_of_requestOf writes built] at taken
    rw [Option.some.inj taken] at marked
    obtain ⟨found, among, first, mark⟩ := Comment.exists_findMarked inside marked
    exact ⟨comments, found, listed_of_hears hears, first, among, mark⟩

/-- A body with characters that are escaped and one beyond U+FFFF, under the greatest id. -/
theorem comments_read_back_escaped :
    let c := ofSettings (Posting.settingsFor "http://[::1]".toList "c".toList)
    let body : Text := marker ++ "\"\\/\t\x01é😀".toList
    let call : Call := .createCommitComment "c".toList body
    let comments : List Comment := [⟨0, "\r\n".toList⟩, ⟨2 ^ 64 - 1, body⟩]
    let items : List Json :=
      [.object [("id".toList, .number (.natural 0)), ("body".toList, .string "\r\n".toList)],
        .object [("body".toList, .string body), ("id".toList, .number (.natural (2 ^ 64 - 1)))]]
    let response : Response :=
      ⟨200, [("Content-Type".toList, "application/json; charset=utf-8".toList)],
        Utf8.encode (Json.array items).text, true⟩
    ∃ request, c.requestOf call = .ok request ∧ call.body? = some body ∧ body.mentions marker = true ∧
      request.posted? = some body ∧ c.Hears (.scripted .plain) [some response] (.commit "c".toList) comments ∧
      c.listed (.scripted .plain) [some response] (.commit "c".toList) = .ok comments ∧
      ∃ listed found, c.listed (.scripted .plain) [some response] (.commit "c".toList) = .ok listed ∧
        Comment.findMarked listed = some found ∧ found ∈ comments ∧ found.body.mentions marker = true := by
  intro c body call comments items response
  obtain ⟨sent, heard, found⟩ := @comments_read_back (List (Option Response))
  have posts : (c.requestOf call).toOption.isSome = true := by decide +kernel
  have asks : ((c.requestOf (.listCommitComments "c".toList)).toOption.bind fun request =>
      ((Network.scripted .plain).exchange request [some response]).result.toOption) = some response := by
    decide +kernel
  obtain ⟨request, built⟩ : ∃ request, c.requestOf call = .ok request := by
    cases built : c.requestOf call with
    | error problem => rw [built] at posts; cases posts
    | ok request => exact ⟨request, rfl⟩
  have lists : response.Lists items := ⟨by decide, rfl, by decide, rfl⟩
  have written : List.Forall₂ Comment.WrittenAs comments items := .cons .idFirst (.cons .bodyFirst .nil)
  have hears : c.Hears (.scripted .plain) [some response] (.commit "c".toList) comments := by
    cases listing : c.requestOf (.listCommitComments "c".toList) with
    | error problem => rw [listing] at asks; cases asks
    | ok other =>
      rw [listing] at asks
      cases answered : ((Network.scripted .plain).exchange other [some response]).result with
      | error problem => simp [Except.toOption, answered] at asks
      | ok answer =>
        obtain rfl : answer = response := by simpa [Except.toOption, answered] using asks
        exact .intro listing answered lists written (by decide)
  have marked : body.mentions marker = true := by decide
  have taken := (sent c call body request rfl built).1
  exact ⟨request, built, rfl, marked, taken, hears, heard _ _ _ _ _ hears,
    found c call body request ⟨2 ^ 64 - 1, body⟩ rfl marked built taken c _ _ _ comments
      (List.mem_cons_of_mem _ (List.mem_singleton_self _)) hears⟩

end Client

end Http

end CoverageNote
