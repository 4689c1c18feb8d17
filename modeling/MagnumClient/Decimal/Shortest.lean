/-
MagnumClient.Decimal.Shortest — the fewest decimal digits that read back.

A finite double stands for every real number that rounds to it, an interval
around its own value; the ends belong to it iff its significand is even. Of the
decimal numbers in that interval this module picks one with the fewest digits
and, among those, the one nearest to the value. It works on the decoded double
`m · 2^q` in exact natural-number arithmetic: for one digit, two digits and so
on it tests the two neighbours of the value on that decimal grid, and the first
grid with a neighbour inside wins. If any point of a grid lies in the interval
then one of the value's two neighbours on that grid does, so no shorter decimal
is missed.
-/

namespace MagnumClient.Decimal

/-- A positive finite double, `significand · 2 ^ exponent`. `narrowBelow` tells
that the next smaller double is only half as far away as the next larger one. -/
structure Binary where
  significand : Nat
  exponent : Int
  narrowBelow : Bool

/-- A decimal `digits · 10 ^ exponent`. -/
structure Scientific where
  digits : Nat
  exponent : Int
deriving Repr, DecidableEq

/-- What a double is, apart from its sign. -/
inductive Magnitude where
  | zero
  | finite (value : Binary)
  | infinite
  | notANumber

/-- The powers of two. -/
def twoTo (n : Nat) : Nat := Nat.pow 2 n

/-- The powers of ten. -/
def tenTo (n : Nat) : Nat := Nat.pow 10 n

/-- Reads the fields of the 64-bit format. -/
def magnitude (x : Float) : Magnitude :=
  let bits : Nat := x.toBits.toNat
  let fraction : Nat := bits % twoTo 52
  let biased : Nat := bits / twoTo 52 % twoTo 11
  if biased = 2047 then (if fraction = 0 then .infinite else .notANumber)
  else if biased = 0 then
    (if fraction = 0 then .zero else .finite ⟨fraction, -1074, false⟩)
  else .finite ⟨twoTo 52 + fraction, (biased : Int) - 1075, fraction = 0 && biased > 1⟩

/-- Whether the sign bit is set. -/
def isNegative (x : Float) : Bool := x.toBits.toNat / twoTo 63 == 1

/-- The reals that round to a double, as fractions over one denominator. -/
structure Interval where
  low : Nat
  middle : Nat
  high : Nat
  denominator : Nat
  closed : Bool

/-- The interval of a double. -/
def Binary.interval (b : Binary) : Interval :=
  let scale : Nat := twoTo (b.exponent - 2).toNat
  { low := (4 * b.significand - (if b.narrowBelow then 1 else 2)) * scale
    middle := 4 * b.significand * scale
    high := (4 * b.significand + 2) * scale
    denominator := twoTo (2 - b.exponent).toNat
    closed := b.significand % 2 == 0 }

/-- How many decimal digits a natural number has. -/
def digitCount (n : Nat) : Nat := (Nat.toDigits 10 n).length

/-- The `e` with `10 ^ e ≤ middle / denominator < 10 ^ (e + 1)`. -/
def Interval.decimalExponent (i : Interval) : Int :=
  if i.denominator ≤ i.middle then (digitCount (i.middle / i.denominator) : Int) - 1
  else
    let k := digitCount (i.denominator / i.middle)
    if i.denominator ≤ i.middle * tenTo (k - 1) then -((k : Int) - 1) else -(k : Int)

/-- Whether `c · 10 ^ p` lies in the interval. -/
def Interval.holds (i : Interval) (p : Int) (c : Nat) : Bool :=
  let x := c * (i.denominator * tenTo p.toNat)
  let low := i.low * tenTo (-p).toNat
  let high := i.high * tenTo (-p).toNat
  if i.closed then low ≤ x && x ≤ high else low < x && x < high

/-- The neighbour of the middle on the grid of step `10 ^ p` that lies in the
interval; of two the nearer, of two equally near the even one. -/
def Interval.onGrid? (i : Interval) (p : Int) : Option Nat :=
  let unit := i.denominator * tenTo p.toNat
  let middle := i.middle * tenTo (-p).toNat
  let below := middle / unit
  match i.holds p below, i.holds p (below + 1) with
  | true, true =>
    let under := middle - below * unit
    let beyond := (below + 1) * unit - middle
    some (if under < beyond || (under == beyond && below % 2 == 0) then below else below + 1)
  | true, false => some below
  | false, true => some (below + 1)
  | false, false => none

/-- Tries `digits` digits, then one more, `fuel` times. -/
def Interval.search (i : Interval) (top : Int) : Nat → Nat → Option Scientific
  | 0, _ => none
  | fuel + 1, digits =>
    let p := top - (digits : Int) + 1
    match i.onGrid? p with
    | some c => some ⟨c, p⟩
    | none => i.search top fuel (digits + 1)

/-- The shortest decimal that reads back as the double. Seventeen digits always
suffice. -/
def Binary.shortest (b : Binary) : Scientific :=
  ((b.interval.search b.interval.decimalExponent 17 1)).getD ⟨b.significand, 0⟩

end MagnumClient.Decimal
