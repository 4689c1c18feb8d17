/-
MagnumClient.Json.Reader — text as documents.

A recursive-descent reader of strict JSON: no leading zeros, no control
characters inside strings, white space only between tokens, nothing after the
document. A record's fields go through `Fields.put`, so a name that occurs twice
keeps its first place and its last value. A surrogate escape without its partner
reads as the replacement character.

The reader recurses on fuel. Every step consumes a character, so the length of
the text is enough, and `parse?` supplies it.
-/
import MagnumClient.Json.Basic
import MagnumClient.Decimal.Number
import MagnumClient.Text.Units

namespace MagnumClient.Json

/-! ## 1. Characters -/

/-- The white space between tokens. -/
def isSpace (c : Char) : Bool := c == ' ' || c == '\t' || c == '\n' || c == '\r'

/-- Drops white space. -/
def skipSpace (cs : List Char) : List Char := cs.dropWhile isSpace

/-- The value of a hexadecimal digit. -/
def hexValue? (c : Char) : Option Nat :=
  if '0' ≤ c && c ≤ '9' then some (c.toNat - 48)
  else if 'a' ≤ c && c ≤ 'f' then some (c.toNat - 87)
  else if 'A' ≤ c && c ≤ 'F' then some (c.toNat - 55)
  else none

/-- The unit that four hexadecimal digits write. -/
def unitOfHex? (a b c d : Char) : Option Nat := do
  let a ← hexValue? a
  let b ← hexValue? b
  let c ← hexValue? c
  let d ← hexValue? d
  return ((a * 16 + b) * 16 + c) * 16 + d

/-- The character of a one-letter escape. -/
def shortEscape? (c : Char) : Option Char :=
  if c == '"' then some '"'
  else if c == '\\' then some '\\'
  else if c == '/' then some '/'
  else if c == 'b' then some (Char.ofNat 8)
  else if c == 'f' then some (Char.ofNat 12)
  else if c == 'n' then some '\n'
  else if c == 'r' then some '\r'
  else if c == 't' then some '\t'
  else none

/-! ## 2. Strings and numbers -/

/-- Reads the units of a string after its opening quote, latest first. -/
def readUnits : Nat → List Char → List Text.CodeUnit → Option (List Text.CodeUnit × List Char)
  | 0, _, _ => none
  | _ + 1, [], _ => none
  | fuel + 1, c :: rest, acc =>
    if c == '"' then some (acc.reverse, rest)
    else if c == '\\' then
      match rest with
      | 'u' :: a :: b :: d :: e :: more =>
        match unitOfHex? a b d e with
        | some n => readUnits fuel more (UInt16.ofNat n :: acc)
        | none => none
      | e :: more =>
        match shortEscape? e with
        | some x => readUnits fuel more ((Text.unitsOfChar x).reverse ++ acc)
        | none => none
      | [] => none
    else if c.toNat < 0x20 then none
    else readUnits fuel rest ((Text.unitsOfChar c).reverse ++ acc)

/-- Reads a string after its opening quote. -/
def readString (fuel : Nat) (cs : List Char) : Option (String × List Char) :=
  (readUnits fuel cs []).map fun (us, rest) => (Text.ofUnits us, rest)

/-- Reads a number without its sign: no leading zero, digits on both sides of a
point, digits in an exponent. -/
def readUnsigned (cs : List Char) : Option (Float × List Char) :=
  let n := Decimal.splitNumeral cs
  let wellFormed := match n.whole with
    | [] => false
    | ['0'] => true
    | '0' :: _ => false
    | _ => true
  let pointed := (cs.dropWhile Decimal.isDigit).head? == some '.'
  let open_ := match n.rest.head? with
    | some c => c == 'e' || c == 'E'
    | none => false
  if !wellFormed || (pointed && n.fraction.isEmpty) || open_ then none
  else some (n.value, n.rest)

/-- Reads a number. -/
def readNumber : List Char → Option (Float × List Char)
  | '-' :: cs => (readUnsigned cs).map fun (x, rest) => (-x, rest)
  | cs => readUnsigned cs

/-- Drops a fixed word from the front. -/
def expect (word : List Char) (cs : List Char) : Option (List Char) :=
  if word.isPrefixOf cs then some (cs.drop word.length) else none

/-! ## 3. Documents -/

mutual

/-- Reads one value; white space before it is skipped. -/
def readValue : Nat → List Char → Option (Json × List Char)
  | 0, _ => none
  | fuel + 1, cs =>
    match skipSpace cs with
    | [] => none
    | c :: rest =>
      if c == '"' then (readString (rest.length + 1) rest).map fun (s, r) => (str s, r)
      else if c == '[' then
        match skipSpace rest with
        | ']' :: more => some (arr [], more)
        | _ => (readItems fuel rest []).map fun (items, r) => (arr items, r)
      else if c.toNat == 0x7B then
        match skipSpace rest with
        | [] => none
        | d :: more =>
          if d.toNat == 0x7D then some (obj [], more)
          else (readFields fuel rest []).map fun (fields, r) => (obj fields, r)
      else if c == 't' then (expect "rue".toList rest).map fun r => (bool true, r)
      else if c == 'f' then (expect "alse".toList rest).map fun r => (bool false, r)
      else if c == 'n' then (expect "ull".toList rest).map fun r => (null, r)
      else (readNumber (c :: rest)).map fun (x, r) => (num x, r)

/-- Reads the items of a list up to its closing bracket. -/
def readItems : Nat → List Char → List Json → Option (List Json × List Char)
  | 0, _, _ => none
  | fuel + 1, cs, acc =>
    match readValue fuel cs with
    | none => none
    | some (v, rest) =>
      match skipSpace rest with
      | ',' :: more => readItems fuel more (v :: acc)
      | ']' :: more => some ((v :: acc).reverse, more)
      | _ => none

/-- Reads the fields of a record up to its closing brace. -/
def readFields : Nat → List Char → Fields → Option (Fields × List Char)
  | 0, _, _ => none
  | fuel + 1, cs, acc =>
    match skipSpace cs with
    | '"' :: body =>
      match readString (body.length + 1) body with
      | none => none
      | some (name, afterName) =>
        match skipSpace afterName with
        | ':' :: valueText =>
          match readValue fuel valueText with
          | none => none
          | some (v, rest) =>
            match skipSpace rest with
            | ',' :: more => readFields fuel more (Fields.put name v acc)
            | d :: more => if d.toNat == 0x7D then some (Fields.put name v acc, more) else none
            | [] => none
        | _ => none
    | _ => none

end

/-- The document that a text writes, `none` if the text is no JSON. -/
def parse? (s : String) : Option Json :=
  let cs := s.toList
  match readValue (cs.length + 1) cs with
  | some (v, rest) => if (skipSpace rest).isEmpty then some v else none
  | none => none

end MagnumClient.Json
