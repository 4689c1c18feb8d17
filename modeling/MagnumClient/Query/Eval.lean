/-
MagnumClient.Query.Eval — evaluating a query.

`eval` gives every expression a value in the context of a current value. A field
of anything but a record, an index of anything but a list and a position outside
the list are null. A projection evaluates its right side on every element and
leaves out the results that are null; an undefined result stays. Evaluation
fails on a missing expression, a slice with step zero and a bad call, and a
failure anywhere is a failure of the whole query.

Expressions are values, so a query can apply an expression to itself and never
end. `eval` therefore recurses on fuel, a bound on the depth of nested
evaluations; only a query that applies itself reaches it.
-/
import MagnumClient.Query.Function
import MagnumClient.Query.Parser

namespace MagnumClient.Query

namespace Value

/-! ## 1. Positions of a list -/

/-- An item of a list; a position outside it is undefined. -/
def item (items : List Value) (i : Int) : Value :=
  if i < 0 then undefined else (items[i.toNat]?).getD undefined

/-- What an index selects from a list. Null if there is nothing. -/
def atPosition (items : List Value) : Position → Value
  | .at i =>
    match item items (if i < 0 then items.length + i else i) with
    | undefined => null
    | v => v
  | .size => num (Decimal.ofNat items.length)
  | .nowhere => null

/-- A bound of a slice, moved into the list. A step without a value counts as
forward. -/
def bound (length : Int) (value : Int) (backward : Bool) : Int :=
  if value < 0 then
    if value + length < 0 then (if backward then -1 else 0) else value + length
  else if value ≥ length then (if backward then length - 1 else length)
  else value

/-- The bound that a slice part stands for; `none` for a number without a
value. -/
def boundOf (length : Int) (part : SlicePart) (backward : Bool) (default : Int) : Option Int :=
  match part with
  | .absent => some default
  | .number none => none
  | .number (some n) => some (bound length n backward)

/-- The positions from `start` on by `step`, `count` of them. -/
def positions (start step : Int) (count : Nat) : List Int :=
  (List.range count).map fun i : Nat => start + step * (i : Int)

/-- The items of a slice. A bound without a value selects nothing; a step without
a value selects the first item of a slice that runs backwards. -/
def sliced (items : List Value) (start stop step : SlicePart) : Except Problem (List Value) :=
  let length : Int := items.length
  let stepValue := match step with
    | .absent => some 1
    | .number n => n
  match stepValue with
  | some 0 => .error .zeroStep
  | _ =>
    let backward := match stepValue with
      | some s => s < 0
      | none => false
    let first := boundOf length start backward (if backward then length - 1 else 0)
    let last := boundOf length stop backward (if backward then -1 else length)
    match first, last, stepValue with
    | some a, some b, some s =>
      let span := if backward then a - b else b - a
      let count := if span ≤ 0 then 0 else ((span + s.natAbs - 1) / s.natAbs).toNat
      .ok ((positions a s count).map (item items))
    | some a, some b, none => .ok (if a > b then [item items a] else [])
    | _, _, _ => .ok []

/-- One level of nested lists opened. -/
def opened : List Value → List Value
  | [] => []
  | arr _ items :: rest => items ++ opened rest
  | v :: rest => v :: opened rest

/-- Whether a value is null. -/
def isNull : Value → Bool
  | null => true
  | _ => false

/-- The value of a field; null if there is none. -/
def fieldOf (name : String) : Value → Value
  | obj _ fields =>
    match lookup name fields with
    | some undefined => null
    | some v => v
    | none => null
  | _ => null

end Value

/-- Whether a value counts as false by now. -/
def countsAsFalse (v : Value) : Build Bool := do return (← seen v).isFalse

/-- Hands out the record of an expression. Only a record can be marked; a list is
handed out as it is. -/
def refer : Value → Build Value
  | .obj label fields => do
    mark label
    return .obj label fields
  | .arr label items => return .arr label items
  | _ => throw .missingExpression

open Value in
/-- The value of an expression in the context of a current value. -/
def eval : Nat → Expr → Value → Build Value
  | 0, _, _ => throw .tooDeep
  | fuel + 1, e, v => do
    match e with
    | .missing => throw .missingExpression
    | .identity => return v
    | .current => return v
    | .literal w => return w
    | .field name => return fieldOf name (← seen v)
    | .not a => return bool (← countsAsFalse (← eval fuel a v))
    | .and a b =>
      let x ← eval fuel a v
      if ← countsAsFalse x then return x else eval fuel b v
    | .or a b =>
      let x ← eval fuel a v
      if ← countsAsFalse x then eval fuel b v else return x
    | .pipe a b => eval fuel b (← eval fuel a v)
    | .compare op a b =>
      let x ← eval fuel a v
      let y ← eval fuel b v
      return bool (compare op (← settled x) (← settled y))
    | .sub a b => eval fuel b (← eval fuel a v)
    | .indexed a b => eval fuel b (← eval fuel a v)
    | .index p =>
      match v with
      | arr _ items => return atPosition items p
      | _ => return null
    | .slice a b c =>
      match v with
      | arr _ items => newList (← (sliced items a b c : Except Problem (List Value)))
      | _ => return null
    | .flatten a =>
      match ← eval fuel a v with
      | arr _ items => newList (opened items)
      | _ => return null
    | .project a b =>
      match ← eval fuel a v with
      | arr _ items => do
        let results ← items.mapM (eval fuel b)
        newList (results.filter (!·.isNull))
      | _ => return null
    | .projectValues a b =>
      match ← seen (← eval fuel a v) with
      | obj _ fields => do
        let results ← fields.mapM fun f => eval fuel b f.2
        newList (results.filter (!·.isNull))
      | _ => return null
    | .projectWhere a b c =>
      match ← eval fuel a v with
      | arr _ items => do
        let chosen ← items.filterM fun x => do return !(← countsAsFalse (← eval fuel c x))
        let results ← chosen.mapM (eval fuel b)
        newList (results.filter (!·.isNull))
      | _ => return null
    | .list es =>
      if v.isNull then return null
      else newList (← es.mapM fun a => eval fuel a v)
    | .hash pairs =>
      if v.isNull then return null
      else do
        let fields ← pairs.mapM fun p => do return (p.1, ← eval fuel p.2 v)
        newRecord (fields.foldl (fun acc f => putField f.1 f.2 acc) [])
    | .call name args => do
      let values ← args.mapM fun a => eval fuel a v
      Function.call (eval fuel) name (← values.mapM settled)
    | .reference target => refer target

/-- How deep evaluations may nest. -/
def maxDepth : Nat := 2000

/-- Documents as a query sees them: every list and record of them knows its place. -/
def documents (items : List Json) : List Value := (Value.ofItems Label.data items 1).1

/-- A language of queries: the value of a query on documents, or why there is none. -/
abbrev Language := String → List Value → Except Problem Value

/-- Evaluates a query on documents. -/
def evaluate : Language := fun query documents => do
  let e ← Expr.ofText query
  let (value, _) ← eval maxDepth e (.arr (Label.data 0) documents) ⟨1, []⟩
  return value

/-! ## Selection -/

/-- Whether a result holds a document itself: the very same list or record, or
the same scalar. NaN counts as itself. -/
def holds (results : List Value) (document : Value) : Bool :=
  results.any fun r =>
    r.identical document ||
      match r, document with
      | .num a, .num b => a.isNaN && b.isNaN
      | _, _ => false

/-- Which documents a query's value selects, in their order: those that the value,
a list, holds. A value that is no list selects none. -/
def selected (documents : List Value) : Value → List Bool
  | .arr _ results => documents.map (holds results)
  | _ => documents.map fun _ => false

end MagnumClient.Query
