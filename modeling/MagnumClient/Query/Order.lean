/-
MagnumClient.Query.Order — comparing the values of a query.

Four relations, from fine to coarse:

* `identical` — the same scalar, or the very same list or record (by label);
* `same` — deep equality, which `==` means: identical, or lists with same items,
  or records with same fields; kinds never mix;
* `lt` and `le` — the order, which any two values have a question about: two
  texts compare by code unit, everything else as numbers, where a list or record
  first turns into its text;
* `isFalse` — empty texts, lists and records, `false` and null.
-/
import MagnumClient.Decimal.Number
import MagnumClient.Query.Token
import MagnumClient.Query.Value

namespace MagnumClient.Query.Value

open Text (CodeUnit)

/-! ## 1. Numbers -/

/-- The number that a text writes, NaN if it writes none. -/
def numberOfUnits (us : List CodeUnit) : Float :=
  (Decimal.ofText? (Text.ofUnits us)).getD Decimal.nan

/-- A value as a number. -/
def toNumber : Value → Float
  | undefined => Decimal.nan
  | null => 0
  | bool b => if b then 1 else 0
  | num x => x
  | v => numberOfUnits (plainText v)

/-- The text of a value that compares as text, `none` for one that compares as a
number. -/
def comparedText? : Value → Option (List CodeUnit)
  | str us => some us
  | arr l items => some (plainText (arr l items))
  | obj l fields => some (plainText (obj l fields))
  | _ => none

/-! ## 2. Order -/

/-- Whether `a` is less than `b`. -/
def lt (a b : Value) : Bool :=
  match comparedText? a, comparedText? b with
  | some x, some y => Text.unitsLt x y
  | _, _ => a.toNumber < b.toNumber

/-- Whether `a` is at most `b`. -/
def le (a b : Value) : Bool :=
  match comparedText? a, comparedText? b with
  | some x, some y => !Text.unitsLt y x
  | _, _ => a.toNumber ≤ b.toNumber

/-! ## 3. Equality -/

/-- Whether two values are one and the same. -/
def identical : Value → Value → Bool
  | undefined, undefined => true
  | null, null => true
  | bool a, bool b => a == b
  | num a, num b => a == b
  | str a, str b => a == b
  | arr l _, arr m _ => l == m
  | obj l _, obj m _ => l == m
  | _, _ => false

mutual

/-- What `==` means: deep equality. -/
def same (a b : Value) : Bool :=
  identical a b ||
    match a, b with
    | arr _ as, arr _ bs => sameItems as bs
    | obj _ as, obj _ bs => sameFields as bs && bs.all fun f => (lookup f.1 as).isSome
    | _, _ => false

/-- Item by item. -/
def sameItems : List Value → List Value → Bool
  | [], [] => true
  | a :: as, b :: bs => same a b && sameItems as bs
  | _, _ => false

/-- Every field on the left is the same on the right, where a missing field is
undefined. -/
def sameFields : List (String × Value) → List (String × Value) → Bool
  | [], _ => true
  | (k, v) :: rest, other => same v ((lookup k other).getD undefined) && sameFields rest other

end

/-- Whether a value counts as false. -/
def isFalse : Value → Bool
  | null => true
  | bool b => !b
  | str us => us.isEmpty
  | arr _ items => items.isEmpty
  | obj _ fields => fields.isEmpty
  | _ => false

/-- What a comparison means. -/
def compare (op : Comparison) (a b : Value) : Bool :=
  match op with
  | .eq => same a b
  | .ne => !same a b
  | .lt => lt a b
  | .le => le a b
  | .gt => lt b a
  | .ge => le b a

end MagnumClient.Query.Value
