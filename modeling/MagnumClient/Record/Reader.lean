/-
MagnumClient.Record.Reader — taking a record apart field by field.

A reader holds the fields of a record that have not been taken yet, without the
noise fields that no one asks for. `take` hands a field out once; `required`
insists that it is there. What is left over at the end is `rest`. A reader can
be asked one question after another (`ask`, `run`): what it hands out is gone for
the questions that follow.

The fields are copied into the reader one by one, so a field under the name of
an ancestor is not among them: it becomes the ancestor of the copy. A take of a
field that is not left is answered by the ancestor, from which nothing can be
taken away.

Every statement about a reader is one about `remaining`, read by `Fields.get?`,
and `ancestor`, read by `Ancestor.find?`.
-/
import MagnumClient.Failure.Basic
import MagnumClient.Json.Inherited

namespace MagnumClient.Record

open Json (Ancestor Member ancestorName)

/-- Fields that are dropped from every record before it is read. -/
def noise : List String := ["links", "human_id", "model_name"]

/-- The names of fields that a reader never has. -/
def dropped : List String := noise ++ [ancestorName]

/-- What is found under a name: a field that is left, or what is inherited. -/
inductive Found where
  | own (v : Json)
  | inherited (m : Member)

/-- The value that is found, if that is one. -/
def Found.value? : Found → Option Json
  | own v => some v
  | inherited m => m.value?

/-- A record that is being taken apart. -/
structure Reader where
  resource : String
  remaining : Fields
  ancestor : Ancestor

namespace Reader

/-- Starts on a record. -/
def start (resource : String) (record : Json) : Reader :=
  let kept := Fields.eraseAll noise record.ownFields
  ⟨resource, Fields.erase ancestorName kept, .of (Fields.get? ancestorName kept)⟩

/-- Whether a field is left. -/
def has (key : String) (r : Reader) : Bool := Fields.has key r.remaining

/-- What a reader finds under a name. -/
def find? (key : String) (r : Reader) : Option Found :=
  match Fields.get? key r.remaining with
  | some v => some (.own v)
  | none => (r.ancestor.find? key).map .inherited

/-- What is found under a name, and the reader without the field. -/
def take (key : String) (r : Reader) : Option Found × Reader :=
  (r.find? key, { r with remaining := Fields.erase key r.remaining })

/-- The value of a field that is left, and the reader without the field. -/
def takeOwn? (key : String) (r : Reader) : Option (Json × Reader) :=
  match r.take key with
  | (some (.own v), next) => some (v, next)
  | _ => none

/-- The value of a field that must be left, and the reader without the field. -/
def required (key : String) (r : Reader) : Except Failure (Json × Reader) :=
  match r.takeOwn? key with
  | some taken => .ok taken
  | none => .error (.malformed r.resource key)

/-- The fields that are left. -/
def rest (r : Reader) : Fields := r.remaining

/-! ## Questions -/

/-- What a reader can be asked. -/
inductive Question where
  | has (key : String)
  | required (key : String)
  | take (key : String)
  | rest

/-- What a reader answers: whether a field is left, its value, what is inherited in its place, that
there is nothing, a refusal, or all the fields that are left. -/
inductive Answer where
  | told (isLeft : Bool)
  | value (v : Json)
  | inherited (m : Member)
  | nothing
  | refused (f : Failure)
  | fields (fs : Fields)

/-- What a take is answered with. -/
def Answer.ofFound : Option Found → Answer
  | some (.own v) => .value v
  | some (.inherited m) => .inherited m
  | none => .nothing

/-- Asks a reader: its answer, and the reader afterwards. -/
def ask (r : Reader) : Question → Answer × Reader
  | .has key => (.told (r.has key), r)
  | .required key =>
    match r.required key with
    | .ok (v, next) => (.value v, next)
    | .error f => (.refused f, r)
  | .take key => (.ofFound (r.take key).1, (r.take key).2)
  | .rest => (.fields r.rest, r)

/-- Asks one question after another: each with its answer, and the reader afterwards. -/
def run (r : Reader) : List Question → List (Question × Answer) × Reader
  | [] => ([], r)
  | q :: qs => ((q, (r.ask q).1) :: ((r.ask q).2.run qs).1, ((r.ask q).2.run qs).2)

/-! ## Equations -/

/-- Taking a field leaves the others. -/
theorem get?_take (key other : String) (r : Reader) :
    Fields.get? other (r.take key).2.remaining =
      if key = other then none else Fields.get? other r.remaining := by
  simp [take]

/-- A field can be taken once. -/
theorem has_take (key : String) (r : Reader) : (r.take key).2.has key = false := by
  simp [has, Fields.has, take]

theorem takeOwn?_eq (key : String) (r : Reader) :
    r.takeOwn? key = (Fields.get? key r.remaining).map fun v =>
      (v, { r with remaining := Fields.erase key r.remaining }) := by
  unfold takeOwn? take find?
  cases Fields.get? key r.remaining with
  | some v => rfl
  | none => cases r.ancestor.find? key <;> rfl

/-- Insisting fails iff the field is not left. -/
theorem required_eq_error_iff (key : String) (r : Reader) (f : Failure) :
    r.required key = .error f ↔ r.has key = false ∧ f = .malformed r.resource key := by
  unfold required has Fields.has
  rw [takeOwn?_eq]
  cases Fields.get? key r.remaining with
  | none => simp [eq_comm]
  | some v => simp

end Reader

end MagnumClient.Record
