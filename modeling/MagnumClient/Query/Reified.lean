/-
MagnumClient.Query.Reified — expressions as records, and records as expressions.

`Expr.toValue` is the record of an expression: its kind, then its name, then its
value or the list of its parts. A missing expression has no record, it is
undefined. Every list and record of it gets a label, outermost first.

`Expr.ofValue` reads a value as an expression. Any value can be read: what is no
record of an expression reads as `missing`, also deep inside, and so is an error
only if evaluation gets there. The record of an expression reads as an
expression of the same meaning. Beyond such records the reader is liberal: any value may stand
as a name, which is then its text, and fields that mean nothing are ignored.
-/
import MagnumClient.Query.Expr
import MagnumClient.Decimal.Number

namespace MagnumClient.Query

/-! ## 1. Words and numbers -/

/-- The name of a comparison. -/
def Comparison.name : Comparison → String
  | .eq => "EQ"
  | .ne => "NE"
  | .lt => "LT"
  | .le => "LTE"
  | .gt => "GT"
  | .ge => "GTE"

/-- The comparison of a name. -/
def Comparison.ofName? (name : String) : Option Comparison :=
  [.eq, .ne, .lt, .le, .gt, .ge].find? (·.name == name)

theorem Comparison.ofName?_name (op : Comparison) : ofName? op.name = some op := by
  cases op <;> decide

/-- The number of an integer. -/
def Value.ofInt (i : Int) : Value :=
  .num (if i < 0 then -(Decimal.ofNat i.natAbs) else Decimal.ofNat i.natAbs)

/-- The position of a written index; one without a value selects nothing. -/
def Position.ofNumber : Option Int → Position
  | some i => .at i
  | none => .nowhere

/-- The value that a position is written as. -/
def Position.toValue : Position → Value
  | .at i => Value.ofInt i
  | .size => Value.text "length"
  | .nowhere => .num Decimal.nan

/-- The position that a value selects. A text selects a position if it is the
plain numeral of it. -/
def Position.ofValue : Value → Position
  | .num x => ofNumber (Decimal.whole? x)
  | v =>
    let s := Text.ofUnits v.plainText
    if s == "length" then .size
    else match Decimal.natOfDigits 10 s.toList with
      | some n => if toString n == s then .at n else .nowhere
      | none => .nowhere

/-- The value that a slice part is written as. -/
def SlicePart.toValue : SlicePart → Value
  | .absent => .null
  | .number (some i) => Value.ofInt i
  | .number none => .num Decimal.nan

/-- The slice part that a value says; one that is missing has no value. -/
def SlicePart.ofValue? : Option Value → SlicePart
  | some .null => .absent
  | some (.num x) => .number (Decimal.whole? x)
  | _ => .number none

/-! ## 2. Expressions as records -/

/-- A computation that numbers the lists and records it builds. -/
abbrev Numbered (α : Type) := StateM Nat α

/-- The label of the next list or record. -/
def nextLabel (mk : Nat → Label) : Numbered Label := modifyGet fun n => (mk n, n + 1)

/-- A record of a kind. -/
def leaf (mk : Nat → Label) (kind : String) (more : List (String × Value)) : Numbered Value := do
  return .obj (← nextLabel mk) (("type", Value.text kind) :: more)

/-- A record of a kind with parts, which are labelled after it. -/
def parent (mk : Nat → Label) (kind : String) (more : List (String × Value))
    (parts : Numbered (List Value)) : Numbered Value := do
  let label ← nextLabel mk
  let inner ← nextLabel mk
  return .obj label (("type", Value.text kind) :: more ++ [("children", .arr inner (← parts))])

namespace Expr

open Value (text)

mutual

/-- The record of an expression. -/
def toValue (mk : Nat → Label) : Expr → Numbered Value
  | missing => return .undefined
  | identity => leaf mk "Identity" []
  | current => leaf mk "Current" []
  | literal v => leaf mk "Literal" [("value", v)]
  | field name => leaf mk "Field" [("name", text name)]
  | not e => parent mk "NotExpression" [] do return [← toValue mk e]
  | and a b => parent mk "AndExpression" [] do return [← toValue mk a, ← toValue mk b]
  | or a b => parent mk "OrExpression" [] do return [← toValue mk a, ← toValue mk b]
  | pipe a b => parent mk "Pipe" [] do return [← toValue mk a, ← toValue mk b]
  | compare op a b =>
    parent mk "Comparator" [("name", text op.name)] do return [← toValue mk a, ← toValue mk b]
  | sub a b => parent mk "Subexpression" [] do return [← toValue mk a, ← toValue mk b]
  | indexed a b => parent mk "IndexExpression" [] do return [← toValue mk a, ← toValue mk b]
  | index p => leaf mk "Index" [("value", p.toValue)]
  | slice a b c => parent mk "Slice" [] do return [a.toValue, b.toValue, c.toValue]
  | flatten e => parent mk "Flatten" [] do return [← toValue mk e]
  | project a b => parent mk "Projection" [] do return [← toValue mk a, ← toValue mk b]
  | projectValues a b => parent mk "ValueProjection" [] do return [← toValue mk a, ← toValue mk b]
  | projectWhere a b c => parent mk "FilterProjection" [] do
    return [← toValue mk a, ← toValue mk b, ← toValue mk c]
  | list es => parent mk "MultiSelectList" [] (toValues mk es)
  | hash ps => parent mk "MultiSelectHash" [] (toPairValues mk ps)
  | call name args => parent mk "Function" [("name", (name.map text).getD .undefined)]
      (toValues mk args)
  | reference v => parent mk "ExpressionReference" [] do return [v]

/-- The records of expressions. -/
def toValues (mk : Nat → Label) : List Expr → Numbered (List Value)
  | [] => return []
  | e :: rest => do return (← toValue mk e) :: (← toValues mk rest)

/-- The records of the pairs of a hash. -/
def toPairValues (mk : Nat → Label) : List (String × Expr) → Numbered (List Value)
  | [] => return []
  | (k, e) :: rest => do
    let label ← nextLabel mk
    let v ← toValue mk e
    return .obj label [("type", text "KeyValuePair"), ("name", text k), ("value", v)]
      :: (← toPairValues mk rest)

end

/-! ## 3. Records as expressions -/

/-- What a record is called; a record without a name has none. -/
def nameIn? (fields : List (String × Value)) : Option String :=
  match Value.lookup "name" fields with
  | some .undefined => none
  | some v => some (Text.ofUnits v.plainText)
  | none => none

/-- What a record is called; one without a name is called `undefined`. -/
def nameIn (fields : List (String × Value)) : String := (nameIn? fields).getD "undefined"

/-- A field that holds a text. -/
def textIn? (name : String) (fields : List (String × Value)) : Option String :=
  match Value.lookup name fields with
  | some (.str us) => some (Text.ofUnits us)
  | _ => none

/-- The parts of a record as they stand, if it has a list of them. -/
def partsIn? (fields : List (String × Value)) : Option (List Value) :=
  match Value.lookup "children" fields with
  | some (.arr _ items) => some items
  | _ => none

/-- A slice that fails on every list. -/
def badSlice : Expr := slice .absent .absent (.number (some 0))

/-- The expression of a record, from its fields, its parts as expressions (if it
has a list of parts) and its parts as pairs of a hash. -/
def ofFields (fields : List (String × Value)) (parts? : Option (List Expr))
    (pairs? : Option (List (String × Expr))) : Expr :=
  let part (i : Nat) : Expr := ((parts?.getD [])[i]?).getD missing
  match textIn? "type" fields with
  | some "Identity" => identity
  | some "Current" => current
  | some "Literal" => literal ((Value.lookup "value" fields).getD .undefined)
  | some "Field" => field (nameIn fields)
  | some "NotExpression" => not (part 0)
  | some "AndExpression" => and (part 0) (part 1)
  | some "OrExpression" => or (part 0) (part 1)
  | some "Pipe" => pipe (part 0) (part 1)
  | some "Comparator" =>
    match (textIn? "name" fields).bind Comparison.ofName? with
    | some op => compare op (part 0) (part 1)
    | none => missing
  | some "Subexpression" =>
    match parts?.getD [] with
    | [] => missing
    | [a] => a
    | a :: b :: more => more.foldl (fun e _ => sub e b) (sub a b)
  | some "IndexExpression" => indexed (part 0) (part 1)
  | some "Index" => index (Position.ofValue ((Value.lookup "value" fields).getD .undefined))
  | some "Slice" =>
    match partsIn? fields with
    | some vs =>
      slice (SlicePart.ofValue? vs[0]?) (SlicePart.ofValue? vs[1]?) (SlicePart.ofValue? vs[2]?)
    | none => badSlice
  | some "Flatten" => flatten (part 0)
  | some "Projection" => project (part 0) (part 1)
  | some "ValueProjection" => projectValues (part 0) (part 1)
  | some "FilterProjection" => projectWhere (part 0) (part 1) (part 2)
  | some "MultiSelectList" => list (parts?.getD [missing])
  | some "MultiSelectHash" => hash (pairs?.getD [("", missing)])
  | some "Function" =>
    match parts? with
    | some es => call (nameIn? fields) es
    | none => missing
  | some "ExpressionReference" => reference ((((partsIn? fields).getD [])[0]?).getD .undefined)
  | _ => missing

mutual

/-- The expression that a value stands for. -/
def ofValue : Value → Expr
  | .obj _ fields => ofFields fields (partsOf? fields) (pairsOf? fields)
  | _ => missing

/-- The parts of a record as expressions. -/
def partsOf? : List (String × Value) → Option (List Expr)
  | [] => none
  | (k, v) :: rest => if k = "children" then itemsOf? v else partsOf? rest

/-- The items of a list as expressions. -/
def itemsOf? : Value → Option (List Expr)
  | .arr _ items => some (ofValues items)
  | _ => none

/-- Values as expressions. -/
def ofValues : List Value → List Expr
  | [] => []
  | v :: rest => ofValue v :: ofValues rest

/-- The parts of a record as pairs of a hash. -/
def pairsOf? : List (String × Value) → Option (List (String × Expr))
  | [] => none
  | (k, v) :: rest => if k = "children" then itemPairsOf? v else pairsOf? rest

/-- The items of a list as pairs of a hash. -/
def itemPairsOf? : Value → Option (List (String × Expr))
  | .arr _ items => some (ofPairValues items)
  | _ => none

/-- Values as pairs of a hash. -/
def ofPairValues : List Value → List (String × Expr)
  | [] => []
  | v :: rest => pairOf v :: ofPairValues rest

/-- The name and the expression that a value gives a field of a hash. -/
def pairOf : Value → String × Expr
  | .obj _ fields => (nameIn fields, valueOf fields)
  | _ => ("", missing)

/-- The expression in the value field of a record. -/
def valueOf : List (String × Value) → Expr
  | [] => missing
  | (k, v) :: rest => if k = "value" then ofValue v else valueOf rest

end

end Expr

end MagnumClient.Query
