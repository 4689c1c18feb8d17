/-
MagnumClient.Update.Patch — an update as a list of patch operations.

An update is a record of fields. Each field is one operation, in the order of
the fields: null removes the attribute, any other value replaces it. The path of
an operation is a slash and the name of the field as it stands.
-/
import MagnumClient.Json.Basic

namespace MagnumClient.Update

/-- An operation on an attribute. -/
inductive Operation where
  | remove (path : String)
  | replace (path : String) (value : Json)

/-- The path of an attribute. -/
def pathOf (name : String) : String := "/" ++ name

/-- The operation that a field of an update asks for. -/
def Operation.ofField : String × Json → Operation
  | (name, .null) => remove (pathOf name)
  | (name, value) => replace (pathOf name) value

/-- The operations that an update asks for. -/
def patch (fields : Fields) : List Operation := fields.map Operation.ofField

/-- An operation as it is sent. -/
def Operation.toJson : Operation → Json
  | remove path => .obj [("op", .str "remove"), ("path", .str path)]
  | replace path value => .obj [("op", .str "replace"), ("path", .str path), ("value", value)]

/-- An update as it is sent. -/
def patchBody (fields : Fields) : Json := .arr ((patch fields).map Operation.toJson)

/-- An entity with the fields of an update, and then those of the answer, put
over its own. -/
def applied (entity : Json) (fields : Fields) (answer : Option Json) : Fields :=
  Fields.overlay (Fields.overlay (Fields.ofPairs entity.ownFields) fields)
    ((answer.map Json.ownFields).getD [])

end MagnumClient.Update
