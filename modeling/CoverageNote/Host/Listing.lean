import CoverageNote.Comment
import CoverageNote.Json.Reader

/-!
# Listings

What the host lists comes as an array in JSON. Each item is read on its own, and one that does not fit
is left out, so an ill-formed item never affects another. Anything that is no array lists nothing.

An item is an object, of which only the known members count, or an array of exactly the known parts in
their order.
-/

namespace CoverageNote

/-! ## Parts of an item -/

/-- A natural number of 64 bits. -/
def Json.asNatural? : Json → Option Nat
  | .number (.natural n) => if n ≤ JsonNumber.maxNatural then some n else none
  | _ => none

/-- A text. -/
def Json.asText? : Json → Option Text
  | .string t => some t
  | _ => none

/-- A part that may be missing or null, and else is read by `read`. -/
def optionalPart {α : Type} (read : Json → Option α) : Option Json → Option (Option α)
  | none | some .null => some none
  | some value => (read value).map some

/-! ## Items -/

/-- A pull request from its parts. -/
def PullRequest.ofParts? (number state : Option Json) : Option PullRequest := do
  let number ← optionalPart Json.asNatural? number
  let state ← optionalPart Json.asText? state
  return ⟨number, state⟩

/-- A pull request from an item of a listing. -/
def PullRequest.ofJson? : Json → Option PullRequest
  | .object members =>
    let item := Json.object members
    ofParts? (item.member? "number".toList) (item.member? "state".toList)
  | .array [number, state] => ofParts? (some number) (some state)
  | _ => none

/-- A comment from its parts. A missing body is empty. -/
def Comment.ofParts? (id body : Option Json) : Option Comment := do
  let id ← id.bind Json.asNatural?
  let body ← optionalPart Json.asText? body
  return ⟨id, body.getD []⟩

/-- A comment from an item of a listing. -/
def Comment.ofJson? : Json → Option Comment
  | .object members =>
    let item := Json.object members
    ofParts? (item.member? "id".toList) (item.member? "body".toList)
  | .array [id] => ofParts? (some id) none
  | .array [id, body] => ofParts? (some id) (some body)
  | _ => none

/-! ## Whole listings -/

/-- The items of a listing that `read` reads, in order. -/
def listing {α : Type} (read : Json → Option α) : Option Json → List α
  | some (.array items) => items.filterMap read
  | _ => []

/-- The pull requests that are listed. -/
def PullRequest.ofListing (value : Option Json) : List PullRequest :=
  listing ofJson? value

/-- The comments that are listed. -/
def Comment.ofListing (value : Option Json) : List Comment :=
  listing ofJson? value

end CoverageNote
