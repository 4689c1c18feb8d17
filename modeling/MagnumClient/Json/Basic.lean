/-
MagnumClient.Json.Basic — decoded JSON documents and the fields of a record.

Everything the service sends and every record a caller passes is a `Json`. A
record keeps its fields as a list, because the order of fields shows: updates
are sent as a list of patch operations in field order, and queries can list the
keys and values of a record. That order is not the order of the text alone:
fields whose name is a canonical array index (`0`, `7`, `4294967294`, but not
`07`) come first, by number, then the others as they were put.

`Fields.put` keeps that order and keeps names apart, so a record that is built
by `put` from the empty one names each field once. That is a property of values
(`Fields.Distinct`) and not a field of the type: the type is plain data, and a
statement asks for the property where it needs it. All lemmas read a record
through `Fields.get?`.
-/
import MagnumClient.Text.Units

namespace MagnumClient

/-- A JSON document. -/
inductive Json where
  | null
  | bool (value : Bool)
  | num (value : Float)
  | str (value : String)
  | arr (items : List Json)
  | obj (fields : List (String × Json))
deriving Inhabited

/-- The fields of a record, in order. -/
abbrev Fields := List (String × Json)

namespace Fields

/-! ## 1. The order of field names -/

/-- The number that a canonical array index writes: decimal, no leading zero, at
most `4294967294`. -/
def index? (name : String) : Option Nat :=
  let cs := name.toList
  if cs.isEmpty || !cs.all Char.isDigit then none
  else if cs.head? == some '0' && cs.length > 1 then none
  else if cs.length > 10 then none
  else
    let n := cs.foldl (fun acc c => acc * 10 + (c.toNat - 48)) 0
    if n ≤ 4294967294 then some n else none

/-- Whether a new field `a` goes before an existing field `b`. -/
def precedes (a b : String) : Bool :=
  match index? a, index? b with
  | some i, some j => i < j
  | some _, none => true
  | none, _ => false

/-! ## 2. Operations -/

/-- The value of a field, `none` if the record has no such field. -/
def get? (name : String) : Fields → Option Json
  | [] => none
  | (k, v) :: rest => if k = name then some v else get? name rest

/-- Whether the record has the field. -/
def has (name : String) (fields : Fields) : Bool := (get? name fields).isSome

/-- The names of the fields, in order. -/
def names (fields : Fields) : List String := fields.map (·.1)

/-- Gives an existing field a new value. -/
def replace (name : String) (value : Json) : Fields → Fields
  | [] => []
  | (k, v) :: rest => if k = name then (k, value) :: rest else (k, v) :: replace name value rest

/-- Adds a field that the record does not have, at its place in the order. -/
def insert (name : String) (value : Json) : Fields → Fields
  | [] => [(name, value)]
  | (k, v) :: rest =>
    if precedes name k then (name, value) :: (k, v) :: rest
    else (k, v) :: insert name value rest

/-- Sets a field: an existing one keeps its place. -/
def put (name : String) (value : Json) (fields : Fields) : Fields :=
  if has name fields then replace name value fields else insert name value fields

/-- The record without the field. -/
def erase (name : String) (fields : Fields) : Fields := fields.filter (·.1 ≠ name)

/-- The record without any of the fields. -/
def eraseAll (banned : List String) (fields : Fields) : Fields :=
  fields.filter fun f => !banned.contains f.1

/-- Builds a record from pairs; of two with one name the later value counts. -/
def ofPairs (pairs : List (String × Json)) : Fields :=
  pairs.foldl (fun acc p => put p.1 p.2 acc) []

/-- The record `base` with every field of `top` put over it. -/
def overlay (base top : Fields) : Fields :=
  top.foldl (fun acc p => put p.1 p.2 acc) base

/-- No name occurs twice. -/
def Distinct (fields : Fields) : Prop := (names fields).Nodup

/-! ## 3. Reading through `get?` -/

@[simp] theorem get?_nil (name : String) : get? name [] = none := rfl

theorem get?_cons (name k : String) (v : Json) (rest : Fields) :
    get? name ((k, v) :: rest) = if k = name then some v else get? name rest := rfl

@[simp] theorem has_nil (name : String) : has name [] = false := rfl

theorem get?_replace (name other : String) (value : Json) (fields : Fields)
    (h : has name fields = true) :
    get? other (replace name value fields) =
      if name = other then some value else get? other fields := by
  induction fields with
  | nil => simp at h
  | cons f rest ih =>
    obtain ⟨k, v⟩ := f
    by_cases hk : k = name
    · subst hk
      by_cases ho : k = other <;> simp [replace, get?_cons, ho]
    · have hrest : has name rest = true := by simpa [has, get?_cons, hk] using h
      have hr : replace name value ((k, v) :: rest) = (k, v) :: replace name value rest := by
        simp [replace, hk]
      rw [hr, get?_cons, get?_cons, ih hrest]
      by_cases ho : k = other
      · have : ¬ name = other := fun e => hk (ho.trans e.symm)
        simp [ho, this]
      · simp [ho]

theorem get?_insert (name other : String) (value : Json) (fields : Fields)
    (h : has name fields = false) :
    get? other (insert name value fields) =
      if name = other then some value else get? other fields := by
  induction fields with
  | nil => simp [insert, get?_cons]
  | cons f rest ih =>
    obtain ⟨k, v⟩ := f
    have hk : ¬ k = name := by
      intro hk
      subst hk
      simp [has, get?_cons] at h
    have hrest : has name rest = false := by
      simpa [has, get?_cons, hk] using h
    unfold insert
    split
    · simp [get?_cons]
    · rw [get?_cons, ih hrest, get?_cons]
      by_cases ho : k = other
      · have : ¬ name = other := fun e => hk (ho.trans e.symm)
        simp [ho, this]
      · simp [ho]

/-- Setting a field sets that field and no other. -/
@[simp] theorem get?_put (name other : String) (value : Json) (fields : Fields) :
    get? other (put name value fields) =
      if name = other then some value else get? other fields := by
  unfold put
  cases h : has name fields with
  | true => simpa using get?_replace name other value fields h
  | false => simpa using get?_insert name other value fields h

/-- Erasing a field erases that field and no other. -/
@[simp] theorem get?_erase (name other : String) (fields : Fields) :
    get? other (erase name fields) = if name = other then none else get? other fields := by
  induction fields with
  | nil => simp [erase]
  | cons f rest ih =>
    obtain ⟨k, v⟩ := f
    unfold erase at ih ⊢
    by_cases hk : k = name
    · subst hk
      simp only [List.filter_cons, ne_eq, not_true_eq_false, decide_false, Bool.false_eq_true,
        if_false, ih, get?_cons]
      by_cases ho : k = other <;> simp [ho]
    · simp only [List.filter_cons, ne_eq, hk, not_false_eq_true, decide_true, if_true, get?_cons,
        ih]
      by_cases ho : k = other
      · have : ¬ name = other := fun e => hk (ho.trans e.symm)
        simp [ho, this]
      · simp [ho]

end Fields

namespace Json

/-! ## 4. Small readers -/

/-- The fields of a record, `none` for any other value. -/
def fields? : Json → Option Fields
  | obj fields => some fields
  | _ => none

/-- The items of a list. -/
def items? : Json → Option (List Json)
  | arr items => some items
  | _ => none

/-- The text of a string. -/
def str? : Json → Option String
  | str s => some s
  | _ => none

/-- A field of a record; `none` if there is none or the value is no record. -/
def field? (name : String) : Json → Option Json
  | obj fields => Fields.get? name fields
  | _ => none

/-- The parts of a list by their places. -/
def indexed (items : List Json) : Fields :=
  items.zipIdx.map fun p => (toString p.2, p.1)

/-- The fields of a value of any kind: a list and a string have their parts as
fields, by place, and other scalars have none. -/
def ownFields : Json → Fields
  | obj fields => fields
  | arr items => indexed items
  | str s => indexed ((Text.units s).map fun u => str (Text.ofUnits [u]))
  | _ => []

/-- Whether a value is a record: neither a list nor a scalar. -/
def isRecord : Json → Bool
  | obj _ => true
  | _ => false

/-- Whether a value is null. -/
def isNull : Json → Bool
  | null => true
  | _ => false

/-- Whether a value counts as present where the absence of one is spelled by
`null`, `false`, zero, NaN or the empty text. -/
def isTruthy : Json → Bool
  | null => false
  | bool b => b
  | num x => !(x == 0 || x.isNaN)
  | str s => !s.isEmpty
  | arr _ => true
  | obj _ => true

end Json

end MagnumClient
