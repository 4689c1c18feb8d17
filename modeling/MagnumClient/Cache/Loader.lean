/-
MagnumClient.Cache.Loader — a memoizing cache together with its loads.

A loader calls its load function whenever the cache has nothing to give, and
hands out loads, which settle later, in any order. A load function can do more
than wait: it can call back into the cache, as often as it likes, and then be
done at once or fail while it is called. `Behaviour` says what it may do; a
loader takes the behaviour of each load from a list, and when the list is used up
loads just wait. How a load behaves that begins inside another one is told by the
behaviour of that.

The order of events inside `get` decides what is remembered: the load function
runs to its end before the entry is stored, so a load that fails while it is
called clears the entry first and is stored afterwards; and of two gets, one
inside the other's load, the inner one is stored first. A load that has failed by
the time it is handed to the cache is noticed later than both: when all that was
called has returned.
-/
import MagnumClient.Cache.Memo
import MagnumClient.Json.Basic

namespace MagnumClient.Cache

/-! ## 1. Loads -/

/-- How far a load is. -/
inductive Status where
  | pending
  | value (v : Json)
  | failed (message : String)

/-- A load and the generation it began. -/
structure Load where
  generation : Nat
  status : Status

/-- What a load function does when it is called. -/
inductive Behaviour where
  /-- It leaves a load that settles later. -/
  | waits
  /-- It is done at once. -/
  | yields (v : Json)
  /-- It leaves a load that has failed already. -/
  | fails (message : String)
  /-- It fails while it is called. -/
  | throws (message : String)
  /-- It invalidates the cache, and goes on. -/
  | invalidates (next : Behaviour)
  /-- It gets from the cache, where a load that begins has a behaviour of its own, and goes on. -/
  | gets (inner next : Behaviour)

/-- A cache, its clock, its loads in the order in which they began, the loads
handed out in the order in which they were, and the behaviours to come. -/
structure Loader where
  limit : Option Float
  memo : Memo
  clock : Float
  loads : List Load
  handed : List Nat
  behaviours : List Behaviour

namespace Loader

/-- A loader that has not been used, at a time. -/
def start (limit : Option Float) (clock : Float) : Loader :=
  ⟨limit, .empty, clock, [], [], []⟩

/-- The load that the cache holds. -/
def fresh? (l : Loader) : Option Nat := l.memo.fresh? l.limit l.clock

/-! ## 2. Settling -/

/-- Gives a load its status. -/
def setStatus (load : Nat) (status : Status) (l : Loader) : Loader :=
  { l with loads := l.loads.modify load fun x => { x with status := status } }

/-- A load succeeds. One that is settled, or has not begun, is left alone. -/
def resolve (load : Nat) (v : Json) (l : Loader) : Loader :=
  match l.loads[load]? with
  | some ⟨_, .pending⟩ => l.setStatus load (.value v)
  | _ => l

/-- A load fails. -/
def reject (load : Nat) (message : String) (l : Loader) : Loader :=
  match l.loads[load]? with
  | some ⟨generation, .pending⟩ =>
    let settled := l.setStatus load (.failed message)
    { settled with memo := settled.memo.fail generation }
  | _ => l

/-- How far each load handed out is. -/
def statuses (l : Loader) : List Status :=
  l.handed.map fun k => ((l.loads[k]?).map Load.status).getD .pending

/-! ## 3. Getting -/

/-- Forgets what the cache holds. -/
def invalidate (l : Loader) : Loader := { l with memo := l.memo.invalidate }

/-- Begins a load. -/
def push (l : Loader) : Loader :=
  { l with
    memo := l.memo.begin
    loads := l.loads ++ [⟨l.memo.generation + 1, .pending⟩] }

/-- Stores a load. -/
def keep (load : Nat) (l : Loader) : Loader := { l with memo := l.memo.store load l.clock }

/-- Hands a load out. -/
def hand (load : Nat) (l : Loader) : Loader := { l with handed := l.handed ++ [load] }

/-- Failures of loads that had failed already. -/
abbrev Late := List (Nat × String)

/-- What getting a load comes to: the load, and the failures that are noticed last. -/
structure Obtained where
  loader : Loader
  load : Nat
  late : Late

/-- Gets a load. A new one is called, by its number and generation, and stored. -/
def obtainBy (call : Nat → Nat → Loader → Loader × Late) (l : Loader) : Obtained :=
  match l.fresh? with
  | some k => ⟨l, k, []⟩
  | none =>
    let k := l.loads.length
    let (called, late) := call k (l.memo.generation + 1) l.push
    ⟨called.keep k, k, late⟩

/-- What a load does while it is called, by its number and generation. -/
def act : Behaviour → Nat → Nat → Loader → Loader × Late
  | .waits, _, _, l => (l, [])
  | .yields v, k, _, l => (l.setStatus k (.value v), [])
  | .fails message, k, _, l => (l, [(k, message)])
  | .throws message, k, generation, l =>
    let failed := l.setStatus k (.failed message)
    ({ failed with memo := failed.memo.fail generation }, [])
  | .invalidates next, k, generation, l => act next k generation l.invalidate
  | .gets inner next, k, generation, l =>
    let got := l.obtainBy fun j g => act inner j g
    let (called, late) := act next k generation (got.loader.hand got.load)
    (called, got.late ++ late)

/-- Gets a load, a new one behaving as told. -/
def obtain (b : Behaviour) (l : Loader) : Obtained := l.obtainBy (act b)

/-- Notices failures. -/
def rejectAll (late : Late) (l : Loader) : Loader :=
  late.foldl (fun l failure => l.reject failure.1 failure.2) l

/-- Gets a load and hands it out. A new one takes the next behaviour. -/
def get (l : Loader) : Loader :=
  let got := l.obtain (l.behaviours.headD .waits)
  let left := if l.fresh?.isSome then l.behaviours else l.behaviours.tail
  { got.loader.hand got.load with behaviours := left }.rejectAll got.late

/-! ## 4. Everything else -/

/-- Lets time pass. -/
def advance (ms : Float) (l : Loader) : Loader := { l with clock := l.clock + ms }

/-- Says what the next loads will do. -/
def expect (behaviours : List Behaviour) (l : Loader) : Loader :=
  { l with behaviours := l.behaviours ++ behaviours }

/-! ## 5. Runs -/

/-- Something that happens to a loader. -/
inductive Event where
  | get
  | invalidate
  | advance (ms : Float)
  | expect (behaviours : List Behaviour)
  | resolve (load : Nat) (v : Json)
  | reject (load : Nat) (message : String)

/-- What an event does. -/
def step (l : Loader) : Event → Loader
  | .get => l.get
  | .invalidate => l.invalidate
  | .advance ms => l.advance ms
  | .expect bs => l.expect bs
  | .resolve k v => l.resolve k v
  | .reject k m => l.reject k m

/-- What a run of events does. -/
def run (l : Loader) (events : List Event) : Loader := events.foldl step l

end Loader

end MagnumClient.Cache
