/-
MagnumClient.Query.Function — the functions of a query.

A call names a function, and every function says how many arguments of which
kinds it takes; a call that breaks that is an error. Two functions (`merge` and
`notNull`) take any number of arguments beyond the first and look at the kind of
the first alone. Where an argument may be anything, even an undefined value is.

Four functions evaluate an expression once per element; they take the evaluator
as a parameter. Lists and records that a function builds get a fresh label, the
ones it passes through keep theirs.
-/
import MagnumClient.Json.Printer
import MagnumClient.Query.Order
import MagnumClient.Query.Reified
import MagnumClient.Text.Collation

namespace MagnumClient.Query

open Text (CodeUnit)

/-! ## 1. Progress of a run -/

/-- What a run has used up and handed out: the number of the next label, and the
records that were handed out as expressions. -/
structure Progress where
  fresh : Nat
  marks : Marks

/-- A computation that may fail, that labels what it builds and marks the
expressions that it hands out. -/
abbrev Build (α : Type) := StateT Progress (Except Problem) α

/-- A label that no value has yet. -/
def freshLabel : Build Label := fun p => .ok (.built p.fresh, { p with fresh := p.fresh + 1 })

/-- A new list. -/
def newList (items : List Value) : Build Value := do
  return .arr (← freshLabel) items

/-- A new record. -/
def newRecord (fields : List (String × Value)) : Build Value := do
  return .obj (← freshLabel) fields

/-- Marks a record. -/
def mark (label : Label) : Build Unit := modify fun p =>
  if p.marks.contains label then p else { p with marks := label :: p.marks }

/-- A value as it is by now, not looking inside. -/
def seen (v : Value) : Build Value := do return v.marked (← get).marks

/-- A value as it is by now, all through. -/
def settled (v : Value) : Build Value := do
  let marks := (← get).marks
  return if marks.isEmpty then v else v.settle marks

/-! ## 2. Signatures -/

/-- A function of a query. -/
inductive Function where
  | abs | avg | ceil | contains | endsWith | floor | length | map | max | merge | maxBy | sum
  | startsWith | min | minBy | type | keys | values | sort | sortBy | join | reverse | toArray
  | toString | toNumber | notNull
deriving Repr, DecidableEq

namespace Function

/-- The function of a name. -/
def ofName? (name : String) : Option Function :=
  match name with
  | "abs" => some abs
  | "avg" => some avg
  | "ceil" => some ceil
  | "contains" => some contains
  | "ends_with" => some endsWith
  | "floor" => some floor
  | "length" => some length
  | "map" => some map
  | "max" => some max
  | "merge" => some merge
  | "max_by" => some maxBy
  | "sum" => some sum
  | "starts_with" => some startsWith
  | "min" => some min
  | "min_by" => some minBy
  | "type" => some type
  | "keys" => some keys
  | "values" => some values
  | "sort" => some sort
  | "sort_by" => some sortBy
  | "join" => some join
  | "reverse" => some reverse
  | "to_array" => some toArray
  | "to_string" => some toString
  | "to_number" => some toNumber
  | "not_null" => some notNull
  | _ => none

/-- The kinds that each parameter accepts. -/
def parameters : Function → List (List Kind)
  | abs => [[.number]]
  | avg => [[.numbers]]
  | ceil => [[.number]]
  | contains => [[.text, .list], [.anything]]
  | endsWith => [[.text], [.text]]
  | floor => [[.number]]
  | length => [[.text, .list, .record]]
  | map => [[.expression], [.list]]
  | max => [[.numbers, .texts]]
  | merge => [[.record]]
  | maxBy => [[.list], [.expression]]
  | sum => [[.numbers]]
  | startsWith => [[.text], [.text]]
  | min => [[.numbers, .texts]]
  | minBy => [[.list], [.expression]]
  | type => [[.anything]]
  | keys => [[.record]]
  | values => [[.record]]
  | sort => [[.texts, .numbers]]
  | sortBy => [[.list], [.expression]]
  | join => [[.text], [.texts]]
  | reverse => [[.text, .list]]
  | toArray => [[.anything]]
  | toString => [[.anything]]
  | toNumber => [[.anything]]
  | notNull => [[.anything]]

/-- Whether more arguments than parameters may follow. -/
def isVariadic : Function → Bool
  | merge => true
  | notNull => true
  | _ => false

/-- Whether the arguments are as many as the function takes. -/
def acceptsCount (f : Function) (count : Nat) : Bool :=
  if f.isVariadic then f.parameters.length ≤ count else count == f.parameters.length

/-- Whether the arguments are of the kinds that the function takes. -/
def acceptsKinds (f : Function) (args : List Value) : Bool :=
  (f.parameters.zip args).all fun (kinds, v) => kinds.any v.isA

end Function

namespace Value

/-! ## 3. Text and fields of a value -/

/-- One unit inside quotes. -/
def quotedUnit (u : CodeUnit) : List CodeUnit :=
  if u < 0x80 then Text.units (String.ofList (Json.escapeChar (Char.ofNat u.toNat))) else [u]

/-- Units inside quotes: as characters are, with a surrogate that has no partner
escaped. -/
def quotedUnits : List CodeUnit → List CodeUnit
  | [] => []
  | [u] =>
    if Text.isHighSurrogate u || Text.isLowSurrogate u then
      Text.units (String.ofList (Json.escapeUnit u.toNat))
    else quotedUnit u
  | u :: v :: rest =>
    if Text.isHighSurrogate u && Text.isLowSurrogate v then u :: v :: quotedUnits rest
    else if Text.isHighSurrogate u || Text.isLowSurrogate u then
      Text.units (String.ofList (Json.escapeUnit u.toNat)) ++ quotedUnits (v :: rest)
    else quotedUnit u ++ quotedUnits (v :: rest)

/-- Units in quotes. -/
def quote (us : List CodeUnit) : List CodeUnit := 0x22 :: quotedUnits us ++ [0x22]

mutual

/-- The compact JSON form of a value; undefined has none. -/
def render : Value → Option (List CodeUnit)
  | undefined => none
  | null => some (Text.units "null")
  | bool b => some (Text.units (if b then "true" else "false"))
  | num x => some (Text.units (Json.renderNumber x))
  | str us => some (quote us)
  | arr _ items =>
    some (Text.units "[" ++ List.intercalate (Text.units ",") (renderItems items) ++ Text.units "]")
  | obj _ fields =>
    some (0x7B :: List.intercalate (Text.units ",") (renderFields fields) ++ [0x7D])

/-- The items of a list; an undefined one is written as null. -/
def renderItems : List Value → List (List CodeUnit)
  | [] => []
  | v :: rest => (render v).getD (Text.units "null") :: renderItems rest

/-- The fields of a record; an undefined one is left out. -/
def renderFields : List (String × Value) → List (List CodeUnit)
  | [] => []
  | (k, v) :: rest =>
    match render v with
    | some us => (quote (Text.units k) ++ Text.units ":" ++ us) :: renderFields rest
    | none => renderFields rest

end

/-- The fields that a value of any kind has: a list and a text have one per
position. -/
def ownFields : Value → List (String × Value)
  | obj _ fields => fields
  | arr _ items => items.mapIdx fun i v => (ToString.toString i, v)
  | str us => us.mapIdx fun i u => (ToString.toString i, str [u])
  | _ => []

end Value

namespace Function

/-! ## 4. Numbers -/

/-- The numbers of a list. -/
def numbersOf (items : List Value) : List Float :=
  items.filterMap fun
    | .num x => some x
    | _ => none

/-- The sum, from the left. -/
def sumOf (xs : List Float) : Float := xs.foldl (· + ·) 0

/-- The best number by an order; NaN as soon as one is NaN. -/
def extremeNumber (better : Float → Float → Bool) (x : Float) (xs : List Float) : Float :=
  if (x :: xs).any (·.isNaN) then Decimal.nan
  else xs.foldl (fun best y => if better y best then y else best) x

/-- The best text by an order; the first of equals. -/
def extremeText (better : String → String → Bool) (x : List CodeUnit) (xs : List (List CodeUnit)) :
    List CodeUnit :=
  xs.foldl (fun best y => if better (Text.ofUnits y) (Text.ofUnits best) then y else best) x

/-- The greatest or least of a list of numbers or of texts, null for none. -/
def extreme (number : Float → Float → Bool) (text : String → String → Bool) :
    List Value → Value
  | [] => .null
  | .num x :: rest => .num (extremeNumber number x (numbersOf rest))
  | .str us :: rest =>
    .str (extremeText text us (rest.filterMap fun
      | .str vs => some vs
      | _ => none))
  | _ => .null

/-! ## 5. Functions that evaluate an expression -/

/-- The name that `type` gives a kind. -/
def kindName : Kind → String
  | .number => "number"
  | .text => "string"
  | .boolean => "boolean"
  | .null => "null"
  | .list => "array"
  | .record => "object"
  | .expression => "expref"
  | _ => ""

/-- Keys must be numbers or texts. -/
def checkKey (v : Value) : Build Value :=
  match v.kind? with
  | some .number => return v
  | some .text => return v
  | _ => throw .wrongKeyType

/-- The first element whose key beats every key before it, where `start` is the
key to beat at first; undefined if none does. -/
def extremeBy (run : Value → Build Value) (better : Value → Value → Bool) :
    List Value → Value → Value → Build Value
  | [], _, best => return best
  | v :: rest, start, best => do
    let key ← checkKey (← run v)
    if better key start then extremeBy run better rest key v
    else extremeBy run better rest start best

/-- Sorts by key. The kind of the first key, which must be number or text, is
the kind of all; equal keys keep their order. -/
def sortedBy (run : Value → Build Value) (items : List Value) : Build (List Value) := do
  match items with
  | [] => return []
  | first :: rest =>
    let firstKey ← checkKey (← run first)
    let keyed ← rest.mapM fun v => do
      let key ← run v
      if key.kind? == firstKey.kind? then return (key, v) else throw Problem.wrongKeyType
    return (((firstKey, first) :: keyed).mergeSort fun a b => !Value.lt b.1 a.1).map (·.2)

/-! ## 6. Application -/

/-- Applies a function to arguments of the right kinds. -/
def apply (run : Expr → Value → Build Value) (f : Function) (args : List Value) : Build Value :=
  match f, args with
  | abs, [.num x] => return .num x.abs
  | ceil, [.num x] => return .num x.ceil
  | floor, [.num x] => return .num x.floor
  | sum, [.arr _ items] => return .num (sumOf (numbersOf items))
  | avg, [.arr _ items] => return .num (sumOf (numbersOf items) / Decimal.ofNat items.length)
  | contains, [.arr _ items, v] => return .bool (items.any (Value.identical v))
  | contains, [.str us, v] => return .bool (Text.indexOf? us v.plainText 0).isSome
  | startsWith, [.str us, .str vs] => return .bool (Text.lastIndexOf? us vs == some 0)
  | endsWith, [.str us, .str vs] =>
    return .bool (Text.indexOf? us vs (us.length - vs.length)).isSome
  | length, [v] =>
    return .num (Decimal.ofNat (match v with
      | .str us => us.length
      | .arr _ items => items.length
      | .obj _ fields => fields.length
      | _ => 0))
  | map, [e, .arr _ items] => do newList (← items.mapM (run (Expr.ofValue e)))
  | max, [.arr _ items] =>
    return extreme (fun x y => x > y) (fun x y => Text.dictionaryLt y x) items
  | min, [.arr _ items] => return extreme (fun x y => x < y) Text.dictionaryLt items
  | merge, _ =>
    newRecord (args.foldl (fun acc v =>
      v.ownFields.foldl (fun acc f => Value.putField f.1 f.2 acc) acc) [])
  | maxBy, [.arr _ items, e] =>
    extremeBy (run (Expr.ofValue e)) (fun key best => Value.lt best key) items
      (.num (-Decimal.infinity)) .undefined
  | minBy, [.arr _ items, e] =>
    extremeBy (run (Expr.ofValue e)) Value.lt items (.num Decimal.infinity) .undefined
  | type, [v] =>
    return match v.kind? with
      | some k => Value.text (kindName k)
      | none => .undefined
  | keys, [.obj _ fields] => newList (fields.map fun f => Value.text f.1)
  | values, [.obj _ fields] => newList (fields.map (·.2))
  | sort, [.arr _ items] =>
    newList (items.mergeSort fun a b => !Text.unitsLt b.plainText a.plainText)
  | sortBy, [.arr _ items, e] => do newList (← sortedBy (run (Expr.ofValue e)) items)
  | join, [.str us, .arr _ items] => return .str (List.intercalate us (Value.itemTexts items))
  | reverse, [.str us] => return .str us.reverse
  | reverse, [.arr _ items] => newList items.reverse
  | toArray, [.arr l items] => return .arr l items
  | toArray, [v] => newList [v]
  | toString, [.str us] => return .str us
  | toString, [v] =>
    return match v.render with
      | some us => .str us
      | none => .undefined
  | toNumber, [.num x] => return .num x
  | toNumber, [.str us] =>
    let x := Value.numberOfUnits us
    return if x.isNaN then .null else .num x
  | toNumber, [_] => return .null
  | notNull, _ =>
    return (args.find? fun v => v.kind? != some Kind.null).getD .null
  | _, _ => throw (.wrongArgumentType "")

/-- Calls a function by name. -/
def call (run : Expr → Value → Build Value) (name : Option String) (args : List Value) :
    Build Value :=
  match name.bind ofName? with
  | none => throw (.unknownFunction name)
  | some f =>
    let shown := name.getD ""
    if !f.acceptsCount args.length then throw (.wrongArgumentCount shown)
    else if !f.acceptsKinds args then throw (.wrongArgumentType shown)
    else apply run f args

end Function

end MagnumClient.Query
