/-
MagnumClient.Update.Address — the identifier that a resource is addressed by.

It is the `uuid` of the resource, or its `id` where the `uuid` is null or
missing, and it must be a string that is not empty.
-/
import MagnumClient.Failure.Basic

namespace MagnumClient.Update

/-- A field whose null counts as missing. -/
def present? (name : String) (resource : Json) : Option Json :=
  (resource.field? name).filter fun v => !v.isNull

/-- The identifier of a resource. -/
def address? (resource : Json) : Option String :=
  match (present? "uuid" resource).or (resource.field? "id") with
  | some (.str s) => if s.isEmpty then none else some s
  | _ => none

/-- The failure of a resource without an identifier. -/
def noAddress : Failure := .operation "Resource has no uuid to address it by"

/-- The identifier of a resource, or the failure that there is none. -/
def address (resource : Json) : Except Failure String :=
  match address? resource with
  | some s => .ok s
  | none => .error noAddress

end MagnumClient.Update
