/-
MagnumClient.Cloud.Interleaving — several calls at a time.

Calls take turns. A turn does the steps of one process up to the next at which
it has to wait: for an endpoint, for its request to leave, for what comes back,
or for a listing that another process reads. A listing is read by a process of
its own, so calls that share it wait for it alike.

`Machine.turn i` gives a turn to the `i`-th process that can go on, and leaves
open which one that is: statements about all interleavings quantify over the
list of choices. `Machine.finish` always takes the process that has been waiting
longest, which is the order in which calls are served.

A caller who only wants to know the endpoint of a service waits like the others:
asking for an endpoint that is not kept yet and getting it are two turns.

A reply is assigned to a request when it is sent, and read at a later turn;
requests can be answered in any order by giving turns in any order.

A machine keeps its history: what can be told of calls and requests, in the
order in which it happened. What calls came to is read off it, and so is which
of two things came first.
-/
import MagnumClient.Cloud.ContainerInfra
import MagnumClient.Cloud.State

namespace MagnumClient.Cloud

/-! ## 1. Processes -/

/-- On whose behalf a request is sent: that of a call, by its number, or that of
a flight. -/
inductive Owner where
  | call (slot : Nat)
  | flight (number : Nat)
deriving Repr, DecidableEq

/-- What a process goes on with. -/
inductive Work where
  /-- A call, by its number. -/
  | call (slot : Nat) (c : Call)
  /-- Reading the page at a link for a flight, behind the items read already. -/
  | page (flight : Nat) (kind : Kind) (link : Option Path.Part) (items : List Json)
  /-- Ending a flight. -/
  | land (flight : Nat) (outcome : Except Failure (List Json))

/-- What an exchange is for. -/
inductive Purpose where
  /-- A call that goes on with the outcome. -/
  | call (slot : Nat) (next : Outcome → Call)
  /-- A page of a flight, behind the items read already. -/
  | page (flight : Nat) (kind : Kind) (items : List Json)

/-- Whose exchange it is. -/
def Purpose.owner : Purpose → Owner
  | call slot _ => .call slot
  | page flight _ _ => .flight flight

/-- What an exchange goes on with when it is over. -/
def Purpose.resume : Purpose → Outcome → Work
  | call slot next, o => .call slot (next o)
  | page flight _ _, .error f => .land flight (.error f)
  | page flight kind items, .ok data =>
    match ContainerInfra.readPage kind data with
    | .error f => .land flight (.error f)
    | .ok (more, none) => .land flight (.ok (items ++ more))
    | .ok (more, some link) => .page flight kind (some link) (items ++ more)

/-- A process that can be given a turn. -/
inductive Process where
  /-- It goes on. -/
  | going (work : Work)
  /-- It gets the endpoint that it has asked a service for. -/
  | resolving (service : Nat) (ask : Ask) (purpose : Purpose)
  /-- It sends its request. -/
  | sending (ask : Ask) (base : Path.Part) (purpose : Purpose)
  /-- It reads what has come back. -/
  | answered (ask : Ask) (request : Request) (reply : Reply) (purpose : Purpose)
  /-- It gets the endpoint that it has asked a service for, and tells it. -/
  | locating (slot service : Nat)

/-- A call that cannot go on before a flight is over. -/
structure Waiter where
  flight : Nat
  slot : Nat
  next : Except Failure (List Json) → Call

/-- Something that happened. -/
inductive Moment where
  /-- A call began. -/
  | begun (slot : Nat) (c : Call)
  /-- A call that asked for a listing was given a flight that had begun before. -/
  | joined (slot : Nat) (kind : Kind) (flight : Nat)
  /-- A call that asked for a listing began a flight. -/
  | opened (slot : Nat) (kind : Kind) (flight : Nat)
  /-- A request was sent. -/
  | sent (owner : Owner) (request : Request)
  /-- What came back was read. -/
  | answered (owner : Owner)
  /-- A call was over. -/
  | returned (slot : Nat) (outcome : Outcome)
  /-- A caller was told the endpoint of a service. -/
  | told (slot service : Nat) (endpoint : String)

/-- Calls that are under way, and what happened so far. -/
structure Machine where
  state : State
  queue : List Process
  waiters : List Waiter
  history : List Moment

namespace Machine

/-- Nothing is under way. -/
def start (s : State) : Machine := ⟨s, [], [], []⟩

/-! ## 2. Turns -/

/-- Adds to the history. -/
def record (x : Moment) (m : Machine) : Machine := { m with history := m.history ++ [x] }

/-- Lets a process wait for its next turn. -/
def enqueue (p : Process) (m : Machine) : Machine := { m with queue := m.queue ++ [p] }

/-- Lets a call wait for a flight. -/
def await (flight slot : Nat) (next : Except Failure (List Json) → Call) (m : Machine) : Machine :=
  { m with waiters := m.waiters ++ [⟨flight, slot, next⟩] }

/-- Sends what is asked for to a base. -/
def dispatch (ask : Ask) (base : Path.Part) (purpose : Purpose) (m : Machine) : Machine :=
  match m.state.send ask base with
  | (.error f, s) => { m with state := s }.enqueue (.going (purpose.resume (.error f)))
  | (.ok (request, reply), s) =>
    ({ m with state := s }.record (.sent purpose.owner request)).enqueue
      (.answered ask request reply purpose)

/-- Begins an exchange. -/
def exchange (ask : Ask) (purpose : Purpose) (m : Machine) : Machine :=
  match ask.base with
  | some base => m.dispatch ask base purpose
  | none =>
    match m.state.client.find? ask.sender.service with
    | none =>
      m.enqueue (.going (purpose.resume (.error (Client.unregistered ask.sender.service))))
    | some i =>
      match (m.state.client.services[i]?).map Service.kept with
      | some kept =>
        if kept.isEmpty then
          { m with state := m.state.askEndpoint i }.enqueue (.resolving i ask purpose)
        else m.enqueue (.sending ask (.segment kept) purpose)
      | none => m.enqueue (.resolving i ask purpose)

/-- Begins to find out the endpoint of a service. -/
def locate (slot service : Nat) (m : Machine) : Machine :=
  match (m.state.client.services[service]?).map Service.kept with
  | none => m.record (.told slot service "")
  | some kept =>
    if kept.isEmpty then
      { m with state := m.state.askEndpoint service }.enqueue (.locating slot service)
    else m.record (.told slot service kept)

/-- Begins to read the page at a link. -/
def page (flight : Nat) (kind : Kind) (link : Option Path.Part) (items : List Json) (m : Machine) :
    Machine :=
  m.exchange (ContainerInfra.pageAsk kind link) (.page flight kind items)

/-- Ends a flight and lets those who wait for it go on. -/
def land (flight : Nat) (outcome : Except Failure (List Json)) (m : Machine) : Machine :=
  let (ready, rest) := m.waiters.partition fun w => w.flight == flight
  { m with
    state := m.state.land flight outcome
    queue := m.queue ++ ready.map fun w => .going (.call w.slot (w.next outcome))
    waiters := rest }

/-- Lets a call wait for a flight that it has begun, and begins to read it. -/
def openFlight (slot : Nat) (kind : Kind) (flight : Nat) (next : Except Failure (List Json) → Call)
    (m : Machine) : Machine :=
  ((m.record (.opened slot kind flight)).await flight slot next).page flight kind none []

/-- Gives a call a flight that began before. -/
def joinFlight (slot : Nat) (kind : Kind) (flight : Nat) (next : Except Failure (List Json) → Call)
    (m : Machine) : Machine :=
  let m := m.record (.joined slot kind flight)
  match m.state.outcome? flight with
  | some o => m.enqueue (.going (.call slot (next o)))
  | none => m.await flight slot next

/-- Does the steps of a call up to the next at which it has to wait. -/
def perform (slot : Nat) : Call → Machine → Machine
  | .done o, m => m.record (.returned slot o)
  | .exchange ask next, m => m.exchange ask (.call slot next)
  | .collect kind next, m =>
    let (flight, s) := m.state.takeOff kind none
    { m with state := s }.openFlight slot kind flight next
  | .listing kind next, m =>
    match m.state.fresh? kind with
    | some flight => m.joinFlight slot kind flight next
    | none =>
      let (flight, s) := m.state.begin kind
      { m with state := s }.openFlight slot kind flight next
  | .forget kind next, m =>
    perform slot next { m with state := m.state.modifyMemo kind .invalidate }
  | .note message next, m => perform slot next { m with state := m.state.note message }

/-- Goes on with a piece of work. -/
def proceed : Work → Machine → Machine
  | .call slot c, m => m.perform slot c
  | .page flight kind link items, m => m.page flight kind link items
  | .land flight o, m => m.land flight o

/-- What a process does in its turn. -/
def act : Process → Machine → Machine
  | .going work, m => m.proceed work
  | .resolving service ask purpose, m =>
    let (e, s) := m.state.gotEndpoint service
    { m with state := s }.enqueue (.sending ask (.segment (e.getD "")) purpose)
  | .sending ask base purpose, m => m.dispatch ask base purpose
  | .answered ask request reply purpose, m =>
    let (o, s) := m.state.receive ask request reply
    ({ m with state := s }.record (.answered purpose.owner)).proceed (purpose.resume o)
  | .locating slot service, m =>
    let (e, s) := m.state.gotEndpoint service
    { m with state := s }.record (.told slot service (e.getD ""))

/-- Gives a turn to a process that can go on. -/
def turn (i : Nat) (m : Machine) : Machine :=
  match m.queue[i]? with
  | none => m
  | some p => { m with queue := m.queue.eraseIdx i }.act p

/-! ## 3. Runs -/

/-- Something that happens while calls are under way. -/
inductive Event where
  /-- A call begins, under a number. -/
  | begin (slot : Nat) (c : Call)
  /-- A caller wants to know the endpoint of a service. -/
  | locate (slot service : Nat)
  /-- A process has its turn. -/
  | turn (i : Nat)
  /-- Time passes. -/
  | pass (ms : Float)

/-- What an event does. -/
def step (m : Machine) : Event → Machine
  | .begin slot c => (m.record (.begun slot c)).perform slot c
  | .locate slot service => m.locate slot service
  | .turn i => m.turn i
  | .pass ms => { m with state := { m.state with clock := m.state.clock + ms } }

/-- What a run of events does. -/
def run (m : Machine) (events : List Event) : Machine := events.foldl step m

/-- Gives turns, at most `count`, to the process that has waited longest. -/
def finish : Nat → Machine → Machine
  | 0, m => m
  | count + 1, m => if m.queue.isEmpty then m else finish count (m.turn 0)

/-- How many turns calls can take: each page takes a reply, and nothing else that
a call does can be repeated. -/
def turnsFor (calls : Nat) (s : State) : Nat := 8 * (s.replies.length + 4 * calls + 4)

/-- What a call came to, if it is over, or what a caller was told. -/
def outcome? (slot : Nat) (m : Machine) : Option Outcome :=
  m.history.findSome? fun x =>
    match x with
    | .returned n o => if n = slot then some o else none
    | .told n _ e => if n = slot then some (.ok (some (.str e))) else none
    | _ => none

end Machine

end MagnumClient.Cloud
