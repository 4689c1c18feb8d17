/-
MagnumClient.Query.Expr — the expressions of a query.

An expression is a tree whose leaves are literals, names and positions. Some
texts parse without having a meaning: a dot with nothing after it, and empty
parentheses, stand for `missing`, which is an error only where it is evaluated.

A reference (`&e`) does not hold the expression that it refers to but the record
of it, because the record is what evaluation hands out (`Query.Reified` makes the
record, and reads records as expressions).
-/
import MagnumClient.Query.Token
import MagnumClient.Query.Value

namespace MagnumClient.Query

/-- A bound or step of a slice: absent, a number, or a number without a value. -/
inductive SlicePart where
  | absent
  | number (value : Option Int)
deriving Repr, DecidableEq

/-- What an index selects from a list: the item at a position (from the end if it
is negative), the number of items, or nothing. -/
inductive Position where
  | at (i : Int)
  | size
  | nowhere
deriving Repr, DecidableEq

/-- An expression. -/
inductive Expr where
  | missing
  | identity
  | current
  | literal (value : Value)
  | field (name : String)
  | not (e : Expr)
  | and (a b : Expr)
  | or (a b : Expr)
  | pipe (a b : Expr)
  | compare (op : Comparison) (a b : Expr)
  | sub (a b : Expr)
  | indexed (a b : Expr)
  | index (position : Position)
  | slice (start stop step : SlicePart)
  | flatten (e : Expr)
  | project (source item : Expr)
  | projectValues (source item : Expr)
  | projectWhere (source item condition : Expr)
  | list (items : List Expr)
  | hash (pairs : List (String × Expr))
  | call (name : Option String) (args : List Expr)
  | reference (target : Value)
deriving Inhabited

end MagnumClient.Query
