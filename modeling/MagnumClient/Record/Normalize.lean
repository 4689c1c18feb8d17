/-
MagnumClient.Record.Normalize — records in their normal form.

A normal record shows the fields of its schema by name, the location that its
resource belongs to, and whatever else the record held under `properties`. It
fails iff a required field is missing, and then with the first that is. Outside
strict mode the legacy names are shown as well.

`normalize` runs one `Reader` over the record: required fields, then those kept
back, then the optional ones; what the reader has left is `properties`. Fields
that are kept back are taken without a look whether they are there, so what they
say can be inherited.
-/
import MagnumClient.Record.Reader
import MagnumClient.Record.Schema

namespace MagnumClient.Record

/-! ## 1. Reading by a schema -/

/-- Takes the required fields, in order. -/
def takeRequired : List Required → Reader → Except Failure (List (Required × Json) × Reader)
  | [], r => .ok ([], r)
  | f :: fs, r =>
    match r.required f.key with
    | .error e => .error e
    | .ok (v, next) =>
      match takeRequired fs next with
      | .error e => .error e
      | .ok (taken, last) => .ok ((f, v) :: taken, last)

/-- Takes those of the fields that are there. -/
def takeOptional : List String → Reader → Fields × Reader
  | [], r => ([], r)
  | key :: keys, r =>
    match r.takeOwn? key with
    | some (v, next) =>
      let (taken, last) := takeOptional keys next
      ((key, v) :: taken, last)
    | none => takeOptional keys r

/-- Takes the fields, wherever their values are found. -/
def takeFound : List String → Reader → Fields × Reader
  | [], r => ([], r)
  | key :: keys, r =>
    let (taken, last) := takeFound keys (r.take key).2
    match (r.find? key).bind Found.value? with
    | some v => ((key, v) :: taken, last)
    | none => (taken, last)

/-! ## 2. Normal records -/

/-- The required fields under the names they are shown under. -/
def shown (taken : List (Required × Json)) : Fields := taken.map fun t => (t.1.name, t.2)

/-- The legacy names: renamed fields under their old names, and fields kept back
that have a value. -/
def legacy (taken : List (Required × Json)) (withheld : Fields) : Fields :=
  (taken.filter fun t => t.1.renamed.isSome).map (fun t => (t.1.key, t.2)) ++
    withheld.filter fun f => !f.2.isNull

/-- The normal form of a record. -/
def normalize (schema : Schema) (strict : Bool) (location : Json) (record : Json) :
    Except Failure Json :=
  match takeRequired schema.required (.start schema.resource record) with
  | .error e => .error e
  | .ok (taken, r₁) =>
    let (withheld, r₂) := takeFound schema.withheld r₁
    let (optional, r₃) := takeOptional schema.optional r₂
    .ok <| .obj <|
      shown taken ++ [("location", location)] ++ (if strict then [] else legacy taken withheld) ++
        optional ++ [("properties", .obj r₃.rest)]

/-- The normal forms of records; none if one of them has none. -/
def normalizeAll (schema : Schema) (strict : Bool) (location : Json) :
    List Json → Except Failure (List Json)
  | [] => .ok []
  | record :: records =>
    match normalize schema strict location record with
    | .error e => .error e
    | .ok first =>
      match normalizeAll schema strict location records with
      | .error e => .error e
      | .ok others => .ok (first :: others)

end MagnumClient.Record
