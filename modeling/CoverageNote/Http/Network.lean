import CoverageNote.Http.Exchange

/-!
# Networks

A network is all that is behind a request that is sent : the library that sends it, and who is reached. How
the library goes on after a response, whether it follows a redirect and what it sends then, is its own
matter : a `Library` is given, and nothing is laid down about it here. It sends what it sends over a
`Wire`, which says of one request what comes of it.

`Network.silent` reaches nobody. `Network.scripted` is a library on the wire that reaches one peer for every
host over plain connections, whose answers are a queue.
-/

namespace CoverageNote.Http

/-- A network with a state. -/
structure Network (σ : Type) where
  exchange : Request → σ → Exchange σ

/-- A wire with a state : what comes of one request on it. -/
structure Wire (σ : Type) where
  contact : Request → σ → Contact × σ

namespace Wire

/-- The answer of the peer when its queue is empty. -/
def exhausted : Response :=
  ⟨599, [], Utf8.encode "stub: no response left".toList, true⟩

/-- What is left of a response : no body comes with the statuses that have none. -/
def sent (r : Response) : Response :=
  if r.status = 204 ∨ r.status = 304 then { r with body := [], complete := true } else r

/-- The wire on which every host with a plain connection is one peer, whose answers are a queue. Each
request takes the next one; `none` is a request that is never answered. -/
def scripted : Wire (List (Option Response)) where
  contact request
    | queue =>
      if request.url.scheme ≠ "http".toList then (.unreachable, queue)
      else
        match queue with
        | [] => (.answered exhausted, [])
        | none :: rest => (.unanswered, rest)
        | some r :: rest => (.answered (sent r), rest)

/-- The exchange in which a request is sent once on a wire. -/
def once {σ : Type} (wire : Wire σ) (request : Request) (s : σ) : Exchange σ :=
  (wire.contact request s).1.exchange request (wire.contact request s).2

end Wire

/-- A library that sends requests over any wire. -/
structure Library where
  send : {σ : Type} → Wire σ → Request → σ → Exchange σ

/-- The library that sends each request once and takes any response as the last one. -/
def Library.plain : Library where
  send wire := wire.once

namespace Network

/-- The network on which nobody is reached. -/
def silent : Network Unit where
  exchange := Contact.unreachable.exchange

/-- A library on the wire whose answers are a queue. -/
def scripted (library : Library) : Network (List (Option Response)) where
  exchange := library.send .scripted

end Network

end CoverageNote.Http
