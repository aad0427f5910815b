import OneFs.Http.Request

/-!
# Redirections

Between a request that is sent and the network there is a library. It may take a reply for a
redirection and put another request in the place of the first, and what it delivers is what becomes
of the last one. Which request that is, is up to the library: a `Library` is given from outside, and
`Library.Documented` is what its documentation says of it.

- `Library.carry`: a request with all that is put on the wire for it;
- `Library.recorded`: a server as it is seen through a library, with a record of what went over the
  wire.
-/

namespace OneFs

/-- The port that a URL leads to. -/
def Url.reachedPort (u : Url) : Option Nat :=
  u.port.or (usualPort? u.scheme)

namespace Http

/-- What came back for one request on the wire: what becomes of the request if this is final, and
the status and the place that it points to, if it points to one. -/
structure Arrival where
  delivery : Delivery
  pointer : Option (Nat × String)
  deriving DecidableEq, Inhabited

/-- The statuses of redirections. -/
def redirecting : List Nat :=
  [301, 302, 303, 307, 308]

/-- Whether a reply points elsewhere with the status of a redirection. -/
def Arrival.redirects (a : Arrival) : Bool :=
  a.pointer.any fun (status, _) => redirecting.contains status

/-- A library that sends requests, by how it follows what points elsewhere: by no request, by one
that it cannot make, or by another request. -/
structure Library where
  next : Request → Nat → String → Option (Except RequestFault Request)

/-- A request on the wire with what came back for it. -/
abbrev Exchanged :=
  Request × Arrival

/-- What becomes of a request in the place of which another was sent. -/
def Delivery.behind (r : Request) : Delivery → Delivery
  | .closed => .misled (.closed r.url)
  | .unreachable => .misled (.unreachable r.url)
  | d => d

namespace Library

variable {σ : Type}

end Library

/-- Whether a request has an authorization. -/
def Request.isAuthorized (r : Request) : Bool :=
  r.headers.any fun h => h.name == "authorization"

/-- What the documentation of a library says of redirections: some statuses redirect; a request in
the place of another has an authorization only if that has one, and none if it goes to another host
or another port. -/
structure Library.Documented (lib : Library) : Prop where
  statuses : ∀ {r : Request} {status : Nat} {place : String} {r' : Except RequestFault Request},
    lib.next r status place = some r' → status ∈ redirecting
  keeps : ∀ {r r' : Request} {status : Nat} {place : String},
    lib.next r status place = some (.ok r') → r'.isAuthorized → r.isAuthorized
  strips : ∀ {r r' : Request} {status : Nat} {place : String},
    lib.next r status place = some (.ok r') → r'.isAuthorized →
      r'.url.host = r.url.host ∧ r'.url.reachedPort = r.url.reachedPort

end Http

end OneFs
