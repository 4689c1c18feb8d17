/-
MagnumClient.Cloud.State — what the calls on a cloud share.

Calls share the client, one cache per kind, the clock, the listings that were
begun (`Flight`), the requests that were sent, the replies to come, and the log.
A cache remembers a listing by its number among the flights, so a listing in
flight can be shared like a finished one.

The functions here are the single moves that calls are made of. Each is small
enough that nothing happens in between: asking for an endpoint and getting it
are two moves, and so are sending a request and reading what came back.
-/
import MagnumClient.Cache.Memo
import MagnumClient.Client.Service
import MagnumClient.Cloud.Kind
import MagnumClient.Failure.Cloud
import MagnumClient.Log

namespace MagnumClient.Cloud

/-! ## 1. State -/

/-- A listing that was begun: the generation of the cache that it was begun for,
if it was begun for the cache, and what it came to, if it is over. -/
structure Flight where
  kind : Kind
  generation : Option Nat
  outcome : Option (Except Failure (List Json))

/-- What calls share. -/
structure State where
  client : Client
  limit : Option Float
  clusters : Cache.Memo
  templates : Cache.Memo
  flights : List Flight
  clock : Float
  replies : List Prepared
  sent : List Request
  log : List Log.Entry

/-- The milliseconds that listings are kept for; forever without a number of
seconds, and if it is zero. -/
def limitOf (seconds : Option Float) : Option Float :=
  match seconds with
  | none => none
  | some s => if s == 0 || s.isNaN then none else some (s * 1000)

namespace State

/-- A cloud that has not been used. -/
def start (client : Client) (cacheExpiration : Option Float) (clock : Float) : State where
  client := client
  limit := limitOf cacheExpiration
  clusters := .empty
  templates := .empty
  flights := []
  clock := clock
  replies := []
  sent := []
  log := []

/-! ## 2. Caches -/

/-- The cache of a kind. -/
def memo (kind : Kind) (s : State) : Cache.Memo :=
  match kind with
  | .cluster => s.clusters
  | .template => s.templates

/-- Changes the cache of a kind. -/
def modifyMemo (kind : Kind) (f : Cache.Memo → Cache.Memo) (s : State) : State :=
  match kind with
  | .cluster => { s with clusters := f s.clusters }
  | .template => { s with templates := f s.templates }

/-- The flight that the cache of a kind gives. -/
def fresh? (kind : Kind) (s : State) : Option Nat := (s.memo kind).fresh? s.limit s.clock

/-- Begins a flight, for a generation of the cache or for none. -/
def takeOff (kind : Kind) (generation : Option Nat) (s : State) : Nat × State :=
  (s.flights.length, { s with flights := s.flights ++ [⟨kind, generation, none⟩] })

/-- Begins a flight and caches it. -/
def begin (kind : Kind) (s : State) : Nat × State :=
  let s := s.modifyMemo kind .begin
  let (flight, s) := s.takeOff kind (some (s.memo kind).generation)
  (flight, s.modifyMemo kind (.store flight s.clock))

/-- Ends a flight. One that failed is not kept. -/
def land (flight : Nat) (outcome : Except Failure (List Json)) (s : State) : State :=
  match s.flights[flight]? with
  | none => s
  | some f =>
    let s := { s with flights := s.flights.set flight { f with outcome := some outcome } }
    match outcome, f.generation with
    | .error _, some generation => s.modifyMemo f.kind (.fail generation)
    | _, _ => s

/-- What a flight came to, if it is over. -/
def outcome? (flight : Nat) (s : State) : Option (Except Failure (List Json)) :=
  (s.flights[flight]?).bind Flight.outcome

/-! ## 3. The log -/

/-- Writes a line of the cloud's. -/
def note (message : String) (s : State) : State :=
  { s with log := s.log ++ [⟨.debug, some "CoeCloud", message⟩] }

/-- What the log says of a failed request: on whose behalf it was sent, and what
it is told as. -/
def failureNote (f : Failure) : List Log.Entry :=
  match f with
  | .request r =>
    match r.sender with
    | some x =>
      [⟨.debug, some "ApiClient", x.service ++ "." ++ x.operation ++ " failed: " ++ r.text⟩]
    | none => []
  | _ => []

/-! ## 4. Requests -/

/-- Asks a service for its endpoint. -/
def askEndpoint (service : Nat) (s : State) : State :=
  { s with client := s.client.modifyService service .ask }

/-- Gets the endpoint that a service was asked for, which is kept. -/
def gotEndpoint (service : Nat) (s : State) : Option String × State :=
  ((s.client.services[service]?).map Service.endpoint,
    { s with client := s.client.modifyService service .keep })

/-- Sends what is asked for to a base: the request, and the reply that it will
meet. Nothing is sent on behalf of an unknown service. -/
def send (ask : Ask) (base : Path.Part) (s : State) : Except Failure (Request × Reply) × State :=
  match (s.client.find? ask.sender.service).bind fun i => s.client.services[i]? with
  | none => (.error (Client.unregistered ask.sender.service), s)
  | some service =>
    let request := s.client.request ask base service
    match takeReply ask.method s.replies with
    | none => (.ok (request, .missing), { s with sent := s.sent ++ [request] })
    | some (reply, rest) =>
      (.ok (request, reply), { s with sent := s.sent ++ [request], replies := rest })

/-- Reads what came back. Failures are told as the library's own. -/
def receive (ask : Ask) (request : Request) (reply : Reply) (s : State) :
    Except Failure (Option Json) × State :=
  match outcome ask request reply with
  | .ok data => (.ok data, s)
  | .error f => (.error f.toCloud, { s with log := s.log ++ failureNote f })

end State

end MagnumClient.Cloud
