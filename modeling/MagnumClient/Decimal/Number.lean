/-
MagnumClient.Decimal.Number — how numbers are written and read.

Writing: the shortest digits that read back, positional while the decimal point
falls at most 21 places after the first digit and at most 6 before it, else in
scientific form with an explicit exponent sign (`1e+21`, `1.5e-7`). A whole
number carries no fraction and zero no sign.

Reading: a decimal numeral is rounded correctly to the nearest double. Exponents
far outside the range of doubles are decided without computing the power.
-/
import MagnumClient.Decimal.Shortest
import MagnumClient.Text.Blank

namespace MagnumClient.Decimal

/-! ## 1. Writing -/

/-- The bounds of positional notation: a number whose first digit stands at
`10 ^ (n - 1)` is written positionally while `smallest < n ≤ largest`. -/
structure Layout where
  smallest : Int
  largest : Int

/-- Numbers are positional from `0.000001` up to 21 digits. -/
def plain : Layout := ⟨-6, 21⟩

/-- The decimal digits of a natural number. -/
def digitChars (n : Nat) : List Char := Nat.toDigits 10 n

/-- Digits without trailing zeros. -/
def trimZeros (cs : List Char) : List Char := (cs.reverse.dropWhile (· == '0')).reverse

/-- A run of `n` zeros. -/
def zeros (n : Nat) : List Char := List.replicate n '0'

/-- Lays out the digits of a positive number whose first digit stands at
`10 ^ (point - 1)`. -/
def Layout.chars (layout : Layout) (digits : List Char) (point : Int) : List Char :=
  let k : Int := digits.length
  if k ≤ point && point ≤ layout.largest then digits ++ zeros (point - k).toNat
  else if 0 < point && point ≤ layout.largest then
    digits.take point.toNat ++ '.' :: digits.drop point.toNat
  else if layout.smallest < point && point ≤ 0 then
    '0' :: '.' :: zeros (-point).toNat ++ digits
  else
    let e := point - 1
    let sign := if e < 0 then '-' else '+'
    let exponent := 'e' :: sign :: digitChars e.natAbs
    match digits with
    | [] => exponent
    | [d] => d :: exponent
    | d :: ds => d :: '.' :: ds ++ exponent

/-- The text of a number. -/
def text (x : Float) : String :=
  match magnitude x with
  | .zero => "0"
  | .notANumber => "NaN"
  | .infinite => if isNegative x then "-Infinity" else "Infinity"
  | .finite b =>
    let s := b.shortest
    let all := digitChars s.digits
    let body := plain.chars (trimZeros all) (s.exponent + all.length)
    String.ofList (if isNegative x then '-' :: body else body)

/-! ## 2. Reading -/

/-- The value of a decimal digit. -/
def digitValue? (c : Char) : Option Nat :=
  if '0' ≤ c && c ≤ '9' then some (c.toNat - '0'.toNat) else none

/-- Whether `c` is a decimal digit. -/
def isDigit (c : Char) : Bool := '0' ≤ c && c ≤ '9'

/-- The number that digits of a base write; `none` for a foreign digit. -/
def natOfDigits (base : Nat) (cs : List Char) : Option Nat :=
  cs.foldl (fun acc c =>
    let d := if isDigit c then some (c.toNat - 48)
      else if 'a' ≤ c && c ≤ 'z' then some (c.toNat - 87)
      else if 'A' ≤ c && c ≤ 'Z' then some (c.toNat - 55)
      else none
    match acc, d with
    | some n, some d => if d < base then some (n * base + d) else none
    | _, _ => none) (some 0)

/-- The double nearest to `digits · 10 ^ exponent`. -/
def ofScientific (digits : Nat) (exponent : Int) : Float :=
  let size : Int := digitCount digits + exponent
  if digits = 0 then 0
  else if size > 400 then 1.0 / 0.0
  else if size < -400 then 0
  else if exponent < 0 then Float.ofScientific digits true exponent.natAbs
  else Float.ofScientific digits false exponent.natAbs

/-- A natural number rounded to the nearest double. -/
def ofNat (n : Nat) : Float := ofScientific n 0

/-- A numeral split into its parts. -/
structure Numeral where
  whole : List Char
  fraction : List Char
  exponent : Int
  rest : List Char

/-- The value of a numeral without its sign. -/
def Numeral.value (n : Numeral) : Float :=
  ofScientific ((natOfDigits 10 (n.whole ++ n.fraction)).getD 0)
    (n.exponent - (n.fraction.length : Int))

/-- Reads the exponent part of a numeral, if a complete one stands here. -/
def exponentPart (cs : List Char) : Option (Int × List Char) :=
  match cs with
  | c :: rest =>
    if c == 'e' || c == 'E' then
      let (negative, body) := match rest with
        | '+' :: r => (false, r)
        | '-' :: r => (true, r)
        | r => (false, r)
      let digits := body.takeWhile isDigit
      if digits.isEmpty then none
      else
        let n : Nat := (natOfDigits 10 digits).getD 0
        some (if negative then -(n : Int) else n, body.dropWhile isDigit)
    else none
  | [] => none

/-- Splits what follows a sign: digits, an optional fraction, an optional
exponent. The fraction part is taken whenever a point follows. -/
def splitNumeral (cs : List Char) : Numeral :=
  let whole := cs.takeWhile isDigit
  let afterWhole := cs.dropWhile isDigit
  let (fraction, afterFraction) := match afterWhole with
    | '.' :: r => (r.takeWhile isDigit, r.dropWhile isDigit)
    | r => ([], r)
  match exponentPart afterFraction with
  | some (e, r) => ⟨whole, fraction, e, r⟩
  | none => ⟨whole, fraction, 0, afterFraction⟩

/-- Not a number. -/
def nan : Float := 0.0 / 0.0

/-- Positive infinity. -/
def infinity : Float := 1.0 / 0.0

/-- Reads a decimal numeral without a sign, `Infinity` included. -/
def unsigned? (cs : List Char) : Option Float :=
  if cs = "Infinity".toList then some infinity
  else
    let n := splitNumeral cs
    if n.rest.isEmpty && !(n.whole.isEmpty && n.fraction.isEmpty) then some n.value else none

/-- Reads the digits of `0x`, `0o` and `0b` numerals. -/
def prefixed? (base : Nat) (cs : List Char) : Option Float :=
  if cs.isEmpty then none else (natOfDigits base cs).map ofNat

/-- Reads a whole text as a number: blank ends are dropped, the empty text is
zero, the hexadecimal, octal and binary forms take no sign. Anything else is
not a number. -/
def ofText? (s : String) : Option Float :=
  match Text.trimChars s.toList with
  | [] => some 0
  | '0' :: 'x' :: cs => prefixed? 16 cs
  | '0' :: 'X' :: cs => prefixed? 16 cs
  | '0' :: 'o' :: cs => prefixed? 8 cs
  | '0' :: 'O' :: cs => prefixed? 8 cs
  | '0' :: 'b' :: cs => prefixed? 2 cs
  | '0' :: 'B' :: cs => prefixed? 2 cs
  | '+' :: cs => unsigned? cs
  | '-' :: cs => (unsigned? cs).map (fun x => -x)
  | cs => unsigned? cs

/-- The integer that a number is, if it has no fraction. -/
def whole? (x : Float) : Option Int :=
  match magnitude x with
  | .zero => some 0
  | .finite b =>
    let unit : Nat := twoTo (-b.exponent).toNat
    let size : Nat := b.significand * twoTo b.exponent.toNat
    if size % unit == 0 then
      some (if isNegative x then -((size / unit : Nat) : Int) else ((size / unit : Nat) : Int))
    else none
  | _ => none

/-- Whether a number has no fraction; the infinities and NaN have none to lack
and are not whole. -/
def isWhole (x : Float) : Bool := (whole? x).isSome

end MagnumClient.Decimal
