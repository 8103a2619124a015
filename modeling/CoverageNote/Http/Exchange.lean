import CoverageNote.Http.Message

/-!
# Exchanges

A request that is sent comes to a response or to a problem, and some requests are seen by someone on the
way.
-/

namespace CoverageNote.Http

/-- Why there is no response. -/
inductive Problem where
  /-- The request cannot be made, and maybe for which URL. -/
  | unbuildable (url : Option Url)
  /-- Nobody is reached, or nobody answers. -/
  | unsent (url : Url)
  /-- There are too many redirects, the last one from this URL. -/
  | redirects (url : Url)
  /-- The body breaks off. -/
  | brokenBody
deriving Repr, DecidableEq

/-- The wording of a problem. -/
def Problem.message : Problem → Text
  | unbuildable none => "builder error".toList
  | unbuildable (some url) => "builder error for url (".toList ++ url.text ++ [')']
  | unsent url => "error sending request for url (".toList ++ url.text ++ [')']
  | redirects url => "error following redirect for url (".toList ++ url.text ++ [')']
  | brokenBody => "error decoding response body".toList

/-- What comes of an exchange : a response or a problem, the requests that were seen by someone, and
the state of the network. -/
structure Exchange (σ : Type) where
  result : Except Problem Response
  seen : List Request
  state : σ

/-- What comes of a request. -/
inductive Contact where
  | unreachable
  | unanswered
  | answered (r : Response)
deriving Repr, DecidableEq

/-- The exchange in which a request is sent once, and this comes of it. -/
def Contact.exchange {σ : Type} (contact : Contact) (request : Request) (s : σ) : Exchange σ :=
  match contact with
  | unreachable => ⟨.error (.unsent request.url), [], s⟩
  | unanswered => ⟨.error (.unsent request.url), [request], s⟩
  | answered r => ⟨.ok r, [request], s⟩

end CoverageNote.Http
