/-
MagnumClient.Text.Units — text as a sequence of UTF-16 code units.

Names, patterns and query strings are compared, counted and matched unit by
unit: a character outside the Basic Multilingual Plane is two units, a high
surrogate and a low one. `String` stays the type of text everywhere else; this
module is the view of it in which "one character" of a wildcard, the length of
a query string and the order of two names are defined.

A list of units may hold a surrogate on its own (reversing a string makes one),
so the view goes both ways but only `String` to units is exact.
-/

namespace MagnumClient.Text

/-- A UTF-16 code unit. -/
abbrev CodeUnit := UInt16

/-- The one or two code units of a character. -/
def unitsOfChar (c : Char) : List CodeUnit :=
  let v := c.toNat
  if v < 0x10000 then [UInt16.ofNat v]
  else
    [UInt16.ofNat (0xD800 + (v - 0x10000) / 0x400),
      UInt16.ofNat (0xDC00 + (v - 0x10000) % 0x400)]

/-- The code units of a text, in order. -/
def units (s : String) : List CodeUnit :=
  s.toList.flatMap unitsOfChar

/-- A unit that opens a pair. -/
def isHighSurrogate (u : CodeUnit) : Bool := 0xD800 ≤ u && u < 0xDC00

/-- A unit that closes a pair. -/
def isLowSurrogate (u : CodeUnit) : Bool := 0xDC00 ≤ u && u < 0xE000

/-- The character that a high and a low surrogate write together. -/
def pairChar (high low : CodeUnit) : Char :=
  Char.ofNat (0x10000 + (high.toNat - 0xD800) * 0x400 + (low.toNat - 0xDC00))

/-- The characters that units write. A surrogate without its partner is read as
the replacement character. -/
def charsOfUnits : List CodeUnit → List Char
  | [] => []
  | [u] => [if isHighSurrogate u || isLowSurrogate u then '\uFFFD' else Char.ofNat u.toNat]
  | u :: v :: rest =>
    if isHighSurrogate u && isLowSurrogate v then pairChar u v :: charsOfUnits rest
    else if isHighSurrogate u || isLowSurrogate u then '\uFFFD' :: charsOfUnits (v :: rest)
    else Char.ofNat u.toNat :: charsOfUnits (v :: rest)

/-- The text that units write. -/
def ofUnits (us : List CodeUnit) : String := String.ofList (charsOfUnits us)

/-- Strict lexicographic order by code unit. -/
def unitsLt : List CodeUnit → List CodeUnit → Bool
  | _, [] => false
  | [], _ :: _ => true
  | a :: as, b :: bs => a < b || (a == b && unitsLt as bs)

/-- The first position at or after `start` where `needle` occurs in `hay`, as an
offset into `hay`; positions count from `pos`. -/
def indexFrom (needle : List CodeUnit) : List CodeUnit → Nat → Nat → Option Nat
  | [], pos, start => if start ≤ pos && needle.isEmpty then some pos else none
  | u :: hay, pos, start =>
    if start ≤ pos && needle.isPrefixOf (u :: hay) then some pos
    else indexFrom needle hay (pos + 1) start

/-- The first occurrence of `needle` at or after `start`, where a `start` beyond
the end counts as the end. -/
def indexOf? (hay needle : List CodeUnit) (start : Nat) : Option Nat :=
  indexFrom needle hay 0 (min start hay.length)

/-- The last occurrence of `needle`. -/
def lastIndexOf? (hay needle : List CodeUnit) : Option Nat :=
  ((List.range (hay.length + 1)).filter fun i => needle.isPrefixOf (hay.drop i)).getLast?

/-! ## Equations -/

@[simp] theorem units_empty : units "" = [] := by simp [units]

@[simp] theorem unitsLt_nil_right (a : List CodeUnit) : unitsLt a [] = false := by
  cases a <;> rfl

/-- The order is irreflexive. -/
theorem unitsLt_irrefl (a : List CodeUnit) : unitsLt a a = false := by
  induction a with
  | nil => rfl
  | cons u us ih => simp [unitsLt, ih]

end MagnumClient.Text
