/-
MagnumClient.Cache.Memo — what a memoizing cache remembers.

A cache holds at most one entry: which load its value comes from, and when that
was stored. What the load yields is not the cache's business: whoever gets the
entry waits for the load. So an entry can stand for a load in flight.

The generation counts loads begun and invalidations. A load remembers the
generation it began, and when it fails it clears the entry only if no newer
generation exists: the late failure of a load that has been superseded does not
touch its successor's entry.
-/

namespace MagnumClient.Cache

/-- A load and the time at which it was stored. -/
structure Entry where
  load : Nat
  storedAt : Float

/-- What a cache remembers. -/
structure Memo where
  generation : Nat
  entry : Option Entry

namespace Memo

/-- The cache that holds nothing. -/
def empty : Memo := ⟨0, none⟩

/-- Whether an entry has been held for as long as entries may be. -/
def expired (limit : Option Float) (now : Float) (e : Entry) : Bool :=
  match limit with
  | none => false
  | some ms => now - e.storedAt ≥ ms

/-- The load whose value the cache gives at a time, if it holds one. -/
def fresh? (limit : Option Float) (now : Float) (m : Memo) : Option Nat :=
  match m.entry with
  | none => none
  | some e => if expired limit now e then none else some e.load

/-- Begins a new generation, whose load is about to run. The entry stays until
the load has been stored. -/
def begin (m : Memo) : Memo := { m with generation := m.generation + 1 }

/-- Holds a load from now on. -/
def store (load : Nat) (now : Float) (m : Memo) : Memo := { m with entry := some ⟨load, now⟩ }

/-- Forgets the entry, and every load in flight. -/
def invalidate (m : Memo) : Memo := ⟨m.generation + 1, none⟩

/-- A load of a generation has failed. -/
def fail (generation : Nat) (m : Memo) : Memo :=
  if generation = m.generation then { m with entry := none } else m

/-! ## Equations -/

@[simp] theorem fresh?_empty (limit : Option Float) (now : Float) :
    empty.fresh? limit now = none := rfl

@[simp] theorem fresh?_invalidate (limit : Option Float) (now : Float) (m : Memo) :
    m.invalidate.fresh? limit now = none := rfl

/-- Without a limit nothing expires. -/
@[simp] theorem fresh?_store_none (load : Nat) (since now : Float) (m : Memo) :
    (m.store load since).fresh? none now = some load := rfl

/-- The failure of a superseded load changes nothing. -/
theorem fail_of_ne {generation : Nat} {m : Memo} (h : generation ≠ m.generation) :
    m.fail generation = m := by simp [fail, h]

end Memo

end MagnumClient.Cache
