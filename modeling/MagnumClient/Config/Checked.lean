/-
MagnumClient.Config.Checked — values that are checked independently of each other.

A checked value is either valid, or invalid with everything that is wrong with
it. Two checked values are combined without either seeing the other: if both are
invalid, the flaws of both are kept, left before right. That is what makes the
list of complaints complete and its order that of the checks.
-/
import MagnumClient.Config.Issue

namespace MagnumClient.Config

/-- A value that passed its checks, or what is wrong with it. -/
inductive Checked (α : Type) where
  | valid (value : α)
  | invalid (issues : List Issue)

namespace Checked

variable {α β : Type}

/-- What is wrong; nothing if the value is valid. -/
def issues : Checked α → List Issue
  | valid _ => []
  | invalid is => is

/-- The value, if it is valid. -/
def value? : Checked α → Option α
  | valid a => some a
  | invalid _ => none

/-- Changes a valid value. -/
def map (f : α → β) : Checked α → Checked β
  | valid a => valid (f a)
  | invalid is => invalid is

/-- Applies a checked function to a checked value. -/
def apply : Checked (α → β) → Checked α → Checked β
  | valid f, valid a => valid (f a)
  | valid _, invalid is => invalid is
  | invalid is, valid _ => invalid is
  | invalid is, invalid js => invalid (is ++ js)

instance : Functor Checked where
  map f c := c.map f

instance : Seq Checked where
  seq f c := f.apply (c ())

/-! ## Equations -/

@[simp] theorem value?_map (f : α → β) (c : Checked α) : (f <$> c).value? = c.value?.map f := by
  cases c <;> rfl

@[simp] theorem issues_map (f : α → β) (c : Checked α) : (f <$> c).issues = c.issues := by
  cases c <;> rfl

/-- A combination is wrong in all that either part is wrong in. -/
@[simp] theorem issues_seq (f : Checked (α → β)) (c : Checked α) :
    (f <*> c).issues = f.issues ++ c.issues := by
  cases f <;> cases c <;> simp [Seq.seq, apply, issues]

/-- A combination has a value iff both parts have one. -/
@[simp] theorem value?_seq (f : Checked (α → β)) (c : Checked α) :
    (f <*> c).value? = f.value?.bind fun g => c.value?.map g := by
  cases f <;> cases c <;> rfl

end Checked

end MagnumClient.Config
