/-
MagnumClient.Session — a client or a cloud in use.

A session holds the state that calls share, the choices that belong to the cloud
rather than to the service (strict mode and location), and the instance of the
client that is shared by name: there is at most one, and only while it is set is
it the client in use.

`Session.perform` does one command and `Session.performAll` several at a time.
Commands that exchange nothing with the service are over at once; all others are
calls.
-/
import MagnumClient.Cloud.Facade
import MagnumClient.Cloud.Interleaving
import MagnumClient.Cloud.Run

namespace MagnumClient

open Cloud (State)

/-! ## 1. Commands -/

/-- An operation of the service, uncached. -/
inductive ContainerInfra.Operation where
  | list (kind : Kind)
  | create (kind : Kind) (attributes : Json)
  | update (kind : Kind) (entity : Json) (fields : Fields)
  | delete (kind : Kind) (entity : Json)
  | certificate (clusterId : String)
  | sign (clusterId csr : String)
  | services

/-- What an operation of the service does. -/
def ContainerInfra.Operation.call : ContainerInfra.Operation → Call
  | list kind => ContainerInfra.list kind
  | create kind attributes => ContainerInfra.create kind attributes .done
  | update kind entity fields => ContainerInfra.update kind entity fields
  | delete kind entity => ContainerInfra.delete kind entity fun o => .done (o.map fun _ => none)
  | certificate clusterId => ContainerInfra.certificate clusterId .done
  | sign clusterId csr => ContainerInfra.sign clusterId csr .done
  | services => ContainerInfra.services .done

/-- What can be asked of a session. -/
inductive Command where
  /-- An operation on the cloud. -/
  | cloud (op : Cloud.Operation)
  /-- The normal forms of the clusters. -/
  | normalizedClusters
  /-- An operation of the service. -/
  | service (op : ContainerInfra.Operation)
  /-- A request of the caller's own. -/
  | request (ask : Ask)
  /-- The normal forms of records. -/
  | normalize (kind : Kind) (records : List Json)
  | strictMode
  | location
  | token
  | setToken (token : String)
  | authHeaders
  /-- The endpoint of the service that a name stands for. -/
  | endpointOf (name : String)
  /-- The endpoint, headers and name of the built-in service. -/
  | ownEndpoint
  | ownHeaders
  | ownName
  | addService (name endpoint : String) (headers : Fields)
  /-- How often each added service was asked for its endpoint. -/
  | endpointCounts
  /-- Makes the shared instance, unless there is one. -/
  | initInstance (settings : Settings)
  | sharedInstance
  | resetInstance

/-- The schema of a kind's records. -/
def Kind.schema : Kind → Record.Schema
  | cluster => Record.cluster
  | template => Record.clusterTemplate

/-! ## 2. Sessions -/

/-- A client or a cloud in use. -/
structure Session where
  state : State
  strict : Bool
  place : Json
  shared : Bool
  retired : List Service

namespace Session

/-- A session that has not been used. -/
def start (settings : Settings) (strict : Bool) (place : Json) (cacheExpiration : Option Float)
    (clock : Float) : Session where
  state := .start (.start settings) cacheExpiration clock
  strict := strict
  place := place
  shared := false
  retired := []

/-- Changes the client. -/
def modifyClient (f : Client → Client) (s : Session) : Session :=
  { s with state := { s.state with client := f s.state.client } }

/-- The client in use. -/
def client (s : Session) : Client := s.state.client

/-- The built-in service. -/
def own? (s : Session) : Option Service := s.client.services[0]?

/-- How often each service that was added was asked for its endpoint. -/
def counts (s : Session) : List Nat :=
  ((s.retired ++ s.client.services).filter fun x => !x.builtIn).map Service.asked

/-- The failure that there is no shared instance. -/
def noInstance : Failure :=
  .foreign "Error"
    "ApiClient instance has not been initialized, please call ApiClient.init to instantiate it"

/-- Sees to it that there is a shared instance, and uses it. -/
def initInstance (settings : Settings) (s : Session) : Session :=
  if s.shared then s
  else
    { s with
      state := { s.state with client := .start settings }
      shared := true
      retired := s.retired ++ s.client.services }

/-- Lets time pass. -/
def advance (ms : Float) (s : Session) : Session :=
  { s with state := { s.state with clock := s.state.clock + ms } }

/-- Begins a step: replies to come are new, and nothing has been sent or logged. -/
def fresh (replies : List Prepared) (s : Session) : Session :=
  { s with state := { s.state with replies := replies, sent := [], log := [] } }

/-! ## 3. Doing commands -/

/-- The call that a command is, if it is one. -/
def call? (s : Session) : Command → Option Call
  | .cloud op => some (op.call s.place)
  | .normalizedClusters => some (Cloud.normalized s.strict s.place)
  | .service op => some op.call
  | .request ask => some (.exchange ask .done)
  | _ => none

/-- A value and the session as it is. -/
def answer (v : Json) (s : Session) : Outcome × Session := (.ok (some v), s)

/-- Does a command that is no call. -/
def atOnce (s : Session) : Command → Outcome × Session
  | .normalize kind records =>
    ((Record.normalizeAll kind.schema s.strict s.place records).map fun rs => some (.arr rs), s)
  | .strictMode => s.answer (.bool s.strict)
  | .location => s.answer s.place
  | .token => s.answer (.str s.client.token)
  | .setToken t => (.ok none, s.modifyClient fun c => { c with token := t })
  | .authHeaders => s.answer (.obj s.client.authHeaders)
  | .endpointOf name =>
    let (o, state) := s.state.endpointOf name
    (o.map fun e => some (.str e), { s with state := state })
  | .ownEndpoint =>
    let (e, state) := s.state.endpoint 0
    { s with state := state }.answer (.str e)
  | .ownHeaders => s.answer (.obj ((s.own?.map Service.headers).getD []))
  | .ownName => s.answer (.str containerInfra)
  | .addService name endpoint headers =>
    (s.modifyClient (·.register (.custom name endpoint headers))).answer (.str name)
  | .endpointCounts => s.answer (.arr (s.counts.map fun n => .num (Decimal.ofNat n)))
  | .initInstance settings =>
    let s := s.initInstance settings
    s.answer (.str s.client.settings.token)
  | .sharedInstance =>
    if s.shared then s.answer (.str s.client.settings.token) else (.error noInstance, s)
  | .resetInstance => (.ok none, { s with shared := false })
  | _ => (.ok none, s)

/-- Does a command. -/
def perform (c : Command) (s : Session) : Outcome × Session :=
  match s.call? c with
  | some call =>
    let (o, state) := Cloud.run call s.state
    (o, { s with state := state })
  | none => s.atOnce c

/-- How a command begins that others can come between: a call, or finding out the
endpoint of a service that there is. -/
def event? (slot : Nat) (s : Session) : Command → Option Cloud.Machine.Event
  | .endpointOf name => (s.client.find? name).map (.locate slot ·)
  | .ownEndpoint => some (.locate slot 0)
  | c => (s.call? c).map (.begin slot ·)

/-- Begins commands in their order: those that nothing can come between are over at
once. -/
def launch : List Command → Nat → Cloud.Machine → Session → Cloud.Machine × Session
  | [], _, m, s => (m, s)
  | c :: cs, slot, m, s =>
    let s := { s with state := m.state }
    match s.event? slot c with
    | some event => launch cs (slot + 1) (m.step event) s
    | none =>
      let (o, next) := s.atOnce c
      launch cs (slot + 1) ({ m with state := next.state }.record (.returned slot o)) next

/-- Does several commands at a time. -/
def performAll (cs : List Command) (s : Session) : List Outcome × Session :=
  let (begun, next) := launch cs 0 (.start s.state) s
  let m := begun.finish (Cloud.Machine.turnsFor cs.length s.state)
  ((List.range cs.length).map fun slot => (m.outcome? slot).getD (.error .nothing),
    { next with state := m.state })

/-! ## 4. Runs -/

/-- Something that happens in a session: a command, with the replies that its
requests will meet, or time that passes. -/
inductive Step where
  | command (c : Command) (replies : List Prepared)
  | advance (ms : Float)

/-- What a step does. -/
def step (s : Session) : Step → Session
  | .command c replies => ((s.fresh replies).perform c).2
  | .advance ms => s.advance ms

/-- What a run of steps does. -/
def play (s : Session) (steps : List Step) : Session := steps.foldl step s

end Session

end MagnumClient
