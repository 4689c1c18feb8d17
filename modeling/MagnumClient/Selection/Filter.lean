/-
MagnumClient.Selection.Filter — which entities a caller asks for.

A filter is a query over the whole list, or a record of the fields that an
entity must have. A field of the filter that is itself a record asks for the
same of the entity's field; any other value must be the entity's own, and a
missing field counts as null. Asking something of an entity, or of a field of
it, always asks that it be a record with at least one field.

A field that is missing but that all records answer for is not null: the member
that it is found to be is the same as no value that a filter can ask for.

Unlike the entities, a filter is no document: a caller can leave a value of it
undefined. `Wanted` is what a filter can ask, and every document is one.
-/
import MagnumClient.Json.Equality
import MagnumClient.Json.Inherited

namespace MagnumClient.Selection

/-! ## 1. Fields -/

/-- A document that is no record. -/
abbrev Leaf := { v : Json // v.isRecord = false }

/-- What a filter asks of a value: that it be a value that is no record, which can
be left undefined, or that it be a record with certain fields. -/
inductive Wanted where
  | value (v : Option Leaf)
  | fields (wanted : List (String × Wanted))

namespace Wanted

mutual

/-- What a document asks. -/
def ofJson : Json → Wanted
  | .obj wanted => fields (ofFields wanted)
  | .null => value (some ⟨.null, rfl⟩)
  | .bool b => value (some ⟨.bool b, rfl⟩)
  | .num x => value (some ⟨.num x, rfl⟩)
  | .str s => value (some ⟨.str s, rfl⟩)
  | .arr items => value (some ⟨.arr items, rfl⟩)

/-- What the fields of a record ask. -/
def ofFields : List (String × Json) → List (String × Wanted)
  | [] => []
  | (k, v) :: rest => (k, ofJson v) :: ofFields rest

end

end Wanted

/-- A value that can be left out, which counts as null then. -/
def orNull (v : Option Json) : Json := v.getD .null

/-- Whether a record answers for a key with what all records have. -/
def inherits (key : String) (fields : Fields) : Bool :=
  !Fields.has key fields && (Json.Ancestor.common.find? key).isSome

mutual

/-- Whether a value, `none` if missing, is what a filter asks for. -/
def meets : Wanted → Option Json → Bool
  | .value v, actual => Json.same (orNull actual) (orNull (v.map Subtype.val))
  | .fields wanted, some (.obj (f :: fs)) => meetsAll wanted (f :: fs)
  | .fields _, _ => false

/-- Whether a record has all fields that a filter asks for. -/
def meetsAll : List (String × Wanted) → Fields → Bool
  | [], _ => true
  | (k, w) :: rest, fields =>
    (!inherits k fields && meets w (Fields.get? k fields)) && meetsAll rest fields

end

/-! ## 2. Filters -/

/-- What is asked of entities. -/
inductive Filter where
  /-- Nothing. -/
  | all
  /-- That they have these fields. -/
  | fields (wanted : List (String × Wanted))
  /-- That a query on the list gives them. -/
  | query (text : String)

/-- The filter that a record of wanted fields stands for. A record without fields
asks for nothing. -/
def Filter.having : List (String × Wanted) → Filter
  | [] => all
  | w :: ws => fields (w :: ws)

/-- The filter that a document stands for. Documents that count as absent ask for
nothing. -/
def Filter.ofJson (v : Json) : Filter :=
  match v with
  | .str s => if s.isEmpty then all else query s
  | .obj wanted => having (Wanted.ofFields wanted)
  | v => if v.isTruthy then fields (Wanted.ofFields v.ownFields) else all

end MagnumClient.Selection
