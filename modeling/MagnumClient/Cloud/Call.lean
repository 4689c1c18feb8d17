/-
MagnumClient.Cloud.Call — what a call on the cloud does, step by step.

A call is a tree of steps. Each step says what is to be done next and, for every
way in which that can turn out, how the call goes on. The steps are those that
other calls can see or be seen by: exchanging a request for an answer, getting a
listing, forgetting a listing, writing to the log. Everything between two steps
is computation, and happens inside the tree.

A tree does nothing by itself. `Cloud.Run` does one call after the other, and
`Cloud.Interleaving` several at a time; what a call means is what these do with
its tree.
-/
import MagnumClient.Client.Request
import MagnumClient.Cloud.Kind

namespace MagnumClient

/-- What a call comes to: a value, or the absence of one, or a failure. -/
abbrev Outcome := Except Failure (Option Json)

/-- A call. -/
inductive Call where
  /-- Is over. -/
  | done (outcome : Outcome)
  /-- Exchanges a request for the data of its answer. -/
  | exchange (ask : Ask) (next : Outcome → Call)
  /-- Reads a whole collection from the service. -/
  | collect (kind : Kind) (next : Except Failure (List Json) → Call)
  /-- Gets the listing of a collection: the one that is cached, if there is one,
  or the whole collection, which is cached then. -/
  | listing (kind : Kind) (next : Except Failure (List Json) → Call)
  /-- Forgets the cached listing of a collection. -/
  | forget (kind : Kind) (next : Call)
  /-- Writes to the log. -/
  | note (message : String) (next : Call)

namespace Call

/-- A call that succeeds with a value. -/
def value (v : Json) : Call := done (.ok (some v))

/-- A call that fails. -/
def fail (f : Failure) : Call := done (.error f)

/-- Goes on with a value, or fails. -/
def andThen {α : Type} (next : α → Call) : Except Failure α → Call
  | .ok a => next a
  | .error f => fail f

end Call

end MagnumClient
