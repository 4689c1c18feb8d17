/-
MagnumClient.Url.Punycode — reading the ASCII spelling of an international label.

A label such as `bcher-kva` stands for `bücher`: the ASCII letters come first,
and what follows the last hyphen says, in numbers of variable length, which
other letters go where. Each number adds to a running counter that holds the
next letter's code point and its place at once. Digits are base 36, least
significant first, and a digit below the threshold of its position ends the
number; thresholds follow a bias that is adapted after each letter.

Only reading is needed: a label is valid iff it reads.
-/

namespace MagnumClient.Url.Punycode

/-- The value of a digit, letters of either case. -/
def digitValue? (c : Char) : Option Nat :=
  let n := c.toNat
  if 0x61 ≤ n && n ≤ 0x7A then some (n - 0x61)
  else if 0x41 ≤ n && n ≤ 0x5A then some (n - 0x41)
  else if 0x30 ≤ n && n ≤ 0x39 then some (n - 0x30 + 26)
  else none

/-- The threshold of the digit at place `k`. -/
def threshold (k bias : Nat) : Nat :=
  if k ≤ bias then 1 else if bias + 26 ≤ k then 26 else k - bias

/-- Divides by 35 until at most 455 is left, and adds 36 for each division. -/
def shrink : Nat → Nat → Nat → Nat × Nat
  | 0, delta, k => (delta, k)
  | fuel + 1, delta, k => if 455 < delta then shrink fuel (delta / 35) (k + 36) else (delta, k)

/-- The bias after a letter; `count` letters are then known. -/
def adapt (delta count : Nat) (first : Bool) : Nat :=
  let d := if first then delta / 700 else delta / 2
  let (left, k) := shrink d (d + d / count) 0
  k + 36 * left / (left + 38)

/-- Reads one number and adds it to the counter. -/
def readNumber (bias : Nat) : List Char → Nat → Nat → Nat → Option (Nat × List Char)
  | [], _, _, _ => none
  | c :: rest, k, weight, counter => do
    let d ← digitValue? c
    if d < threshold k bias then some (counter + d * weight, rest)
    else readNumber bias rest (k + 36) (weight * (36 - threshold k bias)) (counter + d * weight)

/-- Places letters until the text is used up. -/
def place : Nat → Nat → Nat → Nat → List Char → List Char → Option (List Char)
  | 0, _, _, _, out, cs => if cs.isEmpty then some out else none
  | fuel + 1, bias, code, counter, out, cs =>
    if cs.isEmpty then some out
    else do
      let (next, rest) ← readNumber bias cs 36 1 counter
      let count := out.length + 1
      let code := code + next / count
      let spot := next % count
      if code < 0xD800 || (0xDFFF < code && code < 0x110000) then
        place fuel (adapt (next - counter) count (counter == 0)) code (spot + 1)
          (out.take spot ++ Char.ofNat code :: out.drop spot) rest
      else none

/-- The letters before the last hyphen, and what follows it. -/
def splitLast (cs : List Char) : List Char × List Char :=
  match cs.reverse.dropWhile (· != '-') with
  | [] => ([], cs)
  | _ :: before => (before.reverse, (cs.reverse.takeWhile (· != '-')).reverse)

/-- The label that a text spells. -/
def decode? (cs : List Char) : Option (List Char) :=
  let (basic, rest) := splitLast cs
  if basic.all (·.toNat < 0x80) then place rest.length 72 128 0 basic rest else none

end MagnumClient.Url.Punycode
