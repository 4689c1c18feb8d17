/-
MagnumClient.Text.Collation — dictionary order of texts.

The greatest and the least of several names are found in dictionary order, not
by code unit. Texts compare by their letters first, over their whole length; if
those are the same, by their accents; and if those are too, by the variants of
their letters, small letters before capitals. Weights of zero do not take part,
so a mark never stands where a letter is compared. Texts that differ in none of
the three are equal in this order, however they are spelled.
-/
import MagnumClient.Text.Collation.Element

namespace MagnumClient.Text

namespace Collation

/-- What a text is compared by: its letters, its accents and its variants. -/
structure Key where
  letters : List Nat
  accents : List Nat
  variants : List Nat
deriving Repr, DecidableEq

/-- The key of a list of elements. -/
def Key.ofElements (es : List Element) : Key :=
  ⟨(es.map (·.letter)).filter (· != 0), (es.map (·.accent)).filter (· != 0),
    (es.map (·.variant)).filter (· != 0)⟩

/-- The key of a text. -/
def Key.ofText (s : String) : Key := ofElements (elementsOfText (s.toList.map (·.toNat)))

/-- Lexicographic order of weights. -/
def listLt : List Nat → List Nat → Bool
  | _, [] => false
  | [], _ :: _ => true
  | a :: as, b :: bs => a < b || (a == b && listLt as bs)

/-- The order of keys. -/
def Key.lt (a b : Key) : Bool :=
  if a.letters ≠ b.letters then listLt a.letters b.letters
  else if a.accents ≠ b.accents then listLt a.accents b.accents
  else listLt a.variants b.variants

theorem listLt_irrefl (a : List Nat) : listLt a a = false := by
  induction a with
  | nil => rfl
  | cons x xs ih => simp [listLt, ih]

/-- Texts with one key are equal in the order. -/
theorem Key.lt_irrefl (a : Key) : a.lt a = false := by
  simp [Key.lt, listLt_irrefl]

end Collation

/-- Whether `a` stands before `b` in dictionary order. -/
def dictionaryLt (a b : String) : Bool := (Collation.Key.ofText a).lt (Collation.Key.ofText b)

end MagnumClient.Text
