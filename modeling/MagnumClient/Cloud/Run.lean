/-
MagnumClient.Cloud.Run — one call after the other.

`run` does all the steps of a call before anything else happens. A listing that
is in no cache is read page by page; each page takes a reply, so the number of
replies to come bounds the number of pages, and a page too many fails.
-/
import MagnumClient.Cloud.ContainerInfra
import MagnumClient.Cloud.State

namespace MagnumClient.Cloud

namespace State

/-! ## 1. Exchanges -/

/-- The endpoint of a service: the one that is kept, or else the one that it is
asked for. -/
def endpoint (service : Nat) (s : State) : String × State :=
  match s.client.services[service]? with
  | none => ("", s)
  | some x =>
    if x.kept.isEmpty then
      let (e, s) := (s.askEndpoint service).gotEndpoint service
      (e.getD "", s)
    else (x.kept, s)

/-- The endpoint of the service that a name stands for. -/
def endpointOf (name : String) (s : State) : Except Failure String × State :=
  match s.client.find? name with
  | none => (.error (Client.unregistered name), s)
  | some i =>
    let (e, s) := s.endpoint i
    (.ok e, s)

/-- Sends what is asked for to a base and reads what comes back. -/
def exchangeAt (ask : Ask) (base : Path.Part) (s : State) : Outcome × State :=
  match s.send ask base with
  | (.error f, s) => (.error f, s)
  | (.ok (request, reply), s) => s.receive ask request reply

/-- Exchanges a request for the data of its answer. -/
def exchange (ask : Ask) (s : State) : Outcome × State :=
  match ask.base with
  | some base => s.exchangeAt ask base
  | none =>
    match s.endpointOf ask.sender.service with
    | (.error f, s) => (.error f, s)
    | (.ok e, s) => s.exchangeAt ask (.segment e)

/-! ## 2. Collections -/

/-- Reads the pages of a collection from a link on, behind the items read
already; at most `count` pages. -/
def pages : Nat → Kind → Option Path.Part → List Json → State →
    Except Failure (List Json) × State
  | 0, _, _, _, s => (.error .nothing, s)
  | count + 1, kind, link, items, s =>
    match s.exchange (ContainerInfra.pageAsk kind link) with
    | (.error f, s) => (.error f, s)
    | (.ok data, s) =>
      match ContainerInfra.readPage kind data with
      | .error f => (.error f, s)
      | .ok (more, none) => (.ok (items ++ more), s)
      | .ok (more, some next) => pages count kind (some next) (items ++ more) s

/-- Reads a whole collection. -/
def collect (kind : Kind) (s : State) : Except Failure (List Json) × State :=
  s.pages (s.replies.length + 1) kind none []

/-- Gets the listing of a collection, from the cache if it holds one. -/
def listing (kind : Kind) (s : State) : Except Failure (List Json) × State :=
  match s.fresh? kind with
  | some flight => ((s.outcome? flight).getD (.error .nothing), s)
  | none =>
    let (flight, s) := s.begin kind
    let (o, s) := s.collect kind
    (o, s.land flight o)

end State

/-! ## 3. Calls -/

/-- Does a call. -/
def run : Call → State → Outcome × State
  | .done o, s => (o, s)
  | .exchange ask next, s =>
    let (o, s) := s.exchange ask
    run (next o) s
  | .collect kind next, s =>
    let (o, s) := s.collect kind
    run (next o) s
  | .listing kind next, s =>
    let (o, s) := s.listing kind
    run (next o) s
  | .forget kind next, s => run next (s.modifyMemo kind .invalidate)
  | .note message next, s => run next (s.note message)

end MagnumClient.Cloud
