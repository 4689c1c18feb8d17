/-
MagnumClient.Json.Inherited — what a value answers for names that are not its own.

A record that is asked for a name that it has no field of passes the question on to its ancestor.
All records have one ancestor in common, which answers for a few names (`recordNames`) with
members that no document can write. Under one name, `ancestorName`, the ancestor itself is asked
for; and a record that is built field by field takes what is put under that name for its ancestor,
if that is a record or a list, has none from then on if it is null, and does nothing otherwise.
A record read from a text, on the other hand, has a field of that name like any other.

A record or list that is made an ancestor answers with its own fields first, then for
`ancestorName` with itself, then as all records and lists do. Statements read an ancestor through
`Ancestor.find?`.
-/
import MagnumClient.Json.Basic
import MagnumClient.Decimal.Number

namespace MagnumClient.Json

/-! ## 1. Names -/

/-- The name that an ancestor is given and asked for under. -/
def ancestorName : String := "__proto__"

/-- The names that all records answer for. -/
def recordNames : List String :=
  ["constructor", "__defineGetter__", "__defineSetter__", "hasOwnProperty", "__lookupGetter__",
    "__lookupSetter__", "isPrototypeOf", "propertyIsEnumerable", "toString", "valueOf",
    ancestorName, "toLocaleString"]

/-- The names that all lists answer for, beside those of records, their places and their length. -/
def listNames : List String :=
  ["at", "concat", "copyWithin", "fill", "find", "findIndex", "findLast", "findLastIndex",
    "lastIndexOf", "pop", "push", "reverse", "shift", "unshift", "slice", "sort", "splice",
    "includes", "indexOf", "join", "keys", "entries", "values", "forEach", "filter", "flat",
    "flatMap", "map", "every", "some", "reduce", "reduceRight", "toReversed", "toSorted",
    "toSpliced", "with"]

/-! ## 2. Ancestors -/

/-- What is inherited under a name: a value, or a member that no document can write. -/
inductive Member where
  | value (v : Json)
  | builtIn (name : String)

/-- Where a record looks for what it does not have. -/
inductive Ancestor where
  | nothing
  | common
  | record (fields : Fields)
  | list (items : List Json)

namespace Ancestor

/-- The ancestor of a record that is built with a value, or with nothing, under `ancestorName`. -/
def of : Option Json → Ancestor
  | some .null => nothing
  | some (.obj fields) => record fields
  | some (.arr items) => list items
  | _ => common

/-- What an ancestor answers for a name. -/
def find? (name : String) : Ancestor → Option Member
  | nothing => none
  | common => if name ∈ recordNames then some (.builtIn name) else none
  | record fields =>
    match Fields.get? name fields with
    | some v => some (.value v)
    | none =>
      if name = ancestorName then some (.value (.obj fields))
      else if name ∈ recordNames then some (.builtIn name)
      else none
  | list items =>
    match Fields.get? name (indexed items) with
    | some v => some (.value v)
    | none =>
      if name = "length" then some (.value (.num (Decimal.ofNat items.length)))
      else if name = ancestorName then some (.value (.arr items))
      else if name ∈ listNames ++ recordNames then some (.builtIn name)
      else none

end Ancestor

/-- The value that is inherited, if that is one. -/
def Member.value? : Member → Option Json
  | value v => some v
  | builtIn _ => none

end MagnumClient.Json
