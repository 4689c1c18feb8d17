/-
MagnumClient.Query.Value — what a query computes with.

Query values are JSON values with two additions. A value may be `undefined`:
some functions have no result, and that is not null. And every list and record
carries a label that says where it came from: a place in the data, a place in a
literal, a place in an expression of the query, or the moment it was built. Two
lists are the identical list iff their labels are equal, however equal their
items are; that is what makes a query select entities and not copies of them.

An expression that is passed to a function is a record too, the record of its
parts (see `Query.Reified`), and any record that says of itself that it is an
expression counts as one. Handing out an expression makes its record say so from
then on, for everyone who holds it. Values do not change, so a run keeps the
labels of such records (`Marks`) and settles a value by them before it looks
into it.

Strings are UTF-16 code units, because queries count, reverse and order them by
unit. Field names stay text.
-/
import MagnumClient.Decimal.Number
import MagnumClient.Json.Basic
import MagnumClient.Text.Units

namespace MagnumClient.Query

open Text (CodeUnit)

/-- Where a list or record came from. -/
inductive Label where
  | data (n : Nat)
  | literal (place n : Nat)
  | part (place n : Nat)
  | built (n : Nat)
deriving Repr, DecidableEq

/-- A value of a query. -/
inductive Value where
  | undefined
  | null
  | bool (value : Bool)
  | num (value : Float)
  | str (units : List CodeUnit)
  | arr (label : Label) (items : List Value)
  | obj (label : Label) (fields : List (String × Value))
deriving Inhabited

namespace Value

/-! ## 1. Labelling -/

mutual

/-- Labels the lists and records of a document from `n` on, outermost first. -/
def ofJson (mk : Nat → Label) : Json → Nat → Value × Nat
  | .null, n => (null, n)
  | .bool b, n => (bool b, n)
  | .num x, n => (num x, n)
  | .str s, n => (str (Text.units s), n)
  | .arr items, n =>
    let (vs, m) := ofItems mk items (n + 1)
    (arr (mk n) vs, m)
  | .obj fields, n =>
    let (fs, m) := ofFields mk fields (n + 1)
    (obj (mk n) fs, m)

/-- Labels the items of a list. -/
def ofItems (mk : Nat → Label) : List Json → Nat → List Value × Nat
  | [], n => ([], n)
  | v :: rest, n =>
    let (w, n) := ofJson mk v n
    let (ws, n) := ofItems mk rest n
    (w :: ws, n)

/-- Labels the fields of a record. -/
def ofFields (mk : Nat → Label) : List (String × Json) → Nat → List (String × Value) × Nat
  | [], n => ([], n)
  | (k, v) :: rest, n =>
    let (w, n) := ofJson mk v n
    let (ws, n) := ofFields mk rest n
    ((k, w) :: ws, n)

end

/-- A string value. -/
def text (s : String) : Value := str (Text.units s)

/-! ## 2. Fields -/

/-- The value of a field. -/
def lookup (name : String) : List (String × Value) → Option Value
  | [] => none
  | (k, v) :: rest => if k = name then some v else lookup name rest

/-- Adds a field at its place in the order. -/
def insertField (name : String) (value : Value) : List (String × Value) → List (String × Value)
  | [] => [(name, value)]
  | (k, v) :: rest =>
    if Fields.precedes name k then (name, value) :: (k, v) :: rest
    else (k, v) :: insertField name value rest

/-- Sets a field: an existing one keeps its place. -/
def putField (name : String) (value : Value) (fields : List (String × Value)) :
    List (String × Value) :=
  if fields.any (·.1 == name) then
    fields.map fun f => if f.1 == name then (name, value) else f
  else insertField name value fields

/-! ## 3. Text -/

mutual

/-- The text of a value. -/
def plainText : Value → List CodeUnit
  | undefined => Text.units "undefined"
  | null => Text.units "null"
  | bool b => Text.units (if b then "true" else "false")
  | num x => Text.units (Decimal.text x)
  | str us => us
  | arr _ items => List.intercalate (Text.units ",") (itemTexts items)
  | obj _ _ => Text.units "[object Object]"

/-- The texts of a list's items; null and undefined are empty. -/
def itemTexts : List Value → List (List CodeUnit)
  | [] => []
  | null :: rest => [] :: itemTexts rest
  | undefined :: rest => [] :: itemTexts rest
  | v :: rest => plainText v :: itemTexts rest

end

/-! ## 4. Kinds -/

/-- The field by which a record says what it is. -/
def markName : String := "jmespathType"

/-- What the field of an expression says. -/
def markValue : Value := text "Expref"

/-- Whether a field says that its record is an expression. -/
def isMark : Value → Bool
  | str us => us == Text.units "Expref"
  | _ => false

/-- Whether fields say that their record is an expression. -/
def areMarked (fields : List (String × Value)) : Bool :=
  match lookup markName fields with
  | some v => isMark v
  | none => false

end Value

/-- What a value is, and what a parameter accepts. -/
inductive Kind where
  | anything
  | number
  | text
  | boolean
  | null
  | list
  | record
  | expression
  | numbers
  | texts
deriving Repr, DecidableEq

namespace Value

/-- The kind of a value; undefined has none. -/
def kind? : Value → Option Kind
  | undefined => none
  | null => some .null
  | bool _ => some .boolean
  | num _ => some .number
  | str _ => some .text
  | arr _ _ => some .list
  | obj _ fields => some (if areMarked fields then .expression else .record)

/-- Whether a value is of a kind. -/
def isA (v : Value) : Kind → Bool
  | .anything => true
  | .numbers =>
    match v with
    | arr _ items => items.all (·.kind? == some .number)
    | _ => false
  | .texts =>
    match v with
    | arr _ items => items.all (·.kind? == some .text)
    | _ => false
  | k => v.kind? == some k

end Value

/-! ## 5. Marks -/

/-- The labels of the records that were handed out as expressions. -/
abbrev Marks := List Label

namespace Value

/-- The fields of a record under some marks. -/
def markFields (marks : Marks) (label : Label) (fields : List (String × Value)) :
    List (String × Value) :=
  if marks.contains label then putField markName markValue fields else fields

/-- A value under some marks, not looking inside. -/
def marked (marks : Marks) : Value → Value
  | obj label fields => obj label (markFields marks label fields)
  | v => v

mutual

/-- A value under some marks, all through. -/
def settle (marks : Marks) : Value → Value
  | arr label items => arr label (settleItems marks items)
  | obj label fields => obj label (markFields marks label (settleFields marks fields))
  | v => v

/-- The items of a list under some marks. -/
def settleItems (marks : Marks) : List Value → List Value
  | [] => []
  | v :: rest => settle marks v :: settleItems marks rest

/-- The fields of a record under some marks. -/
def settleFields (marks : Marks) : List (String × Value) → List (String × Value)
  | [] => []
  | (k, v) :: rest => (k, settle marks v) :: settleFields marks rest

end

end Value

end MagnumClient.Query
