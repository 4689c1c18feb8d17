/-
MagnumClient.Json.Printer — documents as text.

`render` writes a document in its compact form: no white space, fields in their
order, numbers by `Decimal.text`. A number that JSON cannot write becomes null.

`plainText` is the other way a value turns into text, used where a value of any
kind is put into a message: a string is itself, a list is its items joined by
commas with null left empty, and a record is the fixed text `[object Object]`.
A record with a field where the way to make its text is looked for has no text
(`hasText`), and neither has a list that such a record is in.
-/
import MagnumClient.Json.Basic
import MagnumClient.Decimal.Number

namespace MagnumClient.Json

/-! ## 1. Quoted strings -/

/-- The lower-case hexadecimal digit of a number below sixteen. -/
def hexDigit (n : Nat) : Char := if n < 10 then Char.ofNat (48 + n) else Char.ofNat (87 + n)

/-- The escape of a code unit: `\u` and four hexadecimal digits. -/
def escapeUnit (n : Nat) : List Char :=
  ['\\', 'u', hexDigit (n / 4096 % 16), hexDigit (n / 256 % 16), hexDigit (n / 16 % 16),
    hexDigit (n % 16)]

/-- How one character is written inside quotes: the quote, the backslash and
the controls are escaped, everything else stands for itself. -/
def escapeChar (c : Char) : List Char :=
  if c == '"' then ['\\', '"']
  else if c == '\\' then ['\\', '\\']
  else if c == '\n' then ['\\', 'n']
  else if c == '\r' then ['\\', 'r']
  else if c == '\t' then ['\\', 't']
  else if c.toNat == 8 then ['\\', 'b']
  else if c.toNat == 12 then ['\\', 'f']
  else if c.toNat < 0x20 then escapeUnit c.toNat
  else [c]

/-- A string in quotes. -/
def quote (s : String) : String :=
  String.ofList ('"' :: s.toList.flatMap escapeChar ++ ['"'])

/-! ## 2. Compact form -/

/-- The text of a number. -/
def renderNumber (x : Float) : String := if x.isFinite then Decimal.text x else "null"

mutual

/-- The compact form of a document. -/
def render : Json → String
  | null => "null"
  | bool b => if b then "true" else "false"
  | num x => renderNumber x
  | str s => quote s
  | arr items => "[" ++ String.intercalate "," (renderItems items) ++ "]"
  | obj fields => "\x7b" ++ String.intercalate "," (renderFields fields) ++ "\x7d"

/-- The compact forms of a list's items. -/
def renderItems : List Json → List String
  | [] => []
  | v :: rest => render v :: renderItems rest

/-- The compact forms of a record's fields. -/
def renderFields : List (String × Json) → List String
  | [] => []
  | (k, v) :: rest => (quote k ++ ":" ++ render v) :: renderFields rest

end

/-! ## 3. A value inside a message -/

mutual

/-- The text of a value of any kind. -/
def plainText : Json → String
  | null => "null"
  | bool b => if b then "true" else "false"
  | num x => Decimal.text x
  | str s => s
  | arr items => String.intercalate "," (itemTexts items)
  | obj _ => "[object Object]"

/-- The texts of a list's items, null left empty. -/
def itemTexts : List Json → List String
  | [] => []
  | null :: rest => "" :: itemTexts rest
  | v :: rest => plainText v :: itemTexts rest

end

mutual

/-- Whether a value has a text. -/
def hasText : Json → Bool
  | arr items => itemsHaveText items
  | obj fields => !Fields.has "toString" fields
  | _ => true

/-- Whether all items of a list have texts. -/
def itemsHaveText : List Json → Bool
  | [] => true
  | v :: rest => hasText v && itemsHaveText rest

end

end MagnumClient.Json
