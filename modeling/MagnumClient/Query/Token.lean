/-
MagnumClient.Query.Token — the tokens of a query.

A query is cut into tokens from left to right. Space, tab and line feed separate
tokens; any other character that starts no token is an error.

Three kinds of token carry text with rules of its own. A quoted name is a JSON
string. A raw string `'...'` is taken as it is, but for the first `\'`, which is
a quote. A literal between backticks is JSON if it looks like JSON (it starts
with a bracket, a brace or a quote, is one of the three words, or starts like a
number and reads as JSON) and else the text of a JSON string without its quotes.
The last two need not be closed: they then take the rest of the query.

A run of digits and dashes is a number; a run that does not start like one (a
lone dash) is a number without a value.
-/
import MagnumClient.Json.Reader

namespace MagnumClient.Query

/-- Why a query has no result. -/
inductive Problem where
  | badCharacter (c : Char)
  | badQuotedName
  | badLiteral
  | unexpectedToken
  | missingExpression
  | unknownFunction (name : Option String)
  | wrongArgumentCount (name : String)
  | wrongArgumentType (name : String)
  | wrongKeyType
  | zeroStep
  | tooDeep
deriving Repr, DecidableEq

/-- The comparisons. -/
inductive Comparison where
  | eq | ne | lt | le | gt | ge
deriving Repr, DecidableEq

/-- A token. A literal carries its place among the tokens, which tells two
literals with the same text apart. -/
inductive Token where
  | name (text : String)
  | quotedName (text : String)
  | number (value : Option Int)
  | literal (place : Nat) (value : Json)
  | dot | star | comma | colon
  | leftBrace | rightBrace | leftBracket | rightBracket | leftParen | rightParen
  | current
  | filter
  | flatten
  | compare (op : Comparison)
  | not
  | and
  | or
  | pipe
  | reference

namespace Token

/-! ## 1. Character classes -/

/-- What may start a name. -/
def isNameStart (c : Char) : Bool :=
  ('a' ≤ c && c ≤ 'z') || ('A' ≤ c && c ≤ 'Z') || c == '_'

/-- What may continue a name. -/
def isNameChar (c : Char) : Bool := isNameStart c || Decimal.isDigit c

/-- What a number is made of. -/
def isNumberChar (c : Char) : Bool := Decimal.isDigit c || c == '-'

/-- The backtick that encloses literals. -/
def backtick : Char := Char.ofNat 0x60

/-- What separates tokens. -/
def isSeparator (c : Char) : Bool := c == ' ' || c == '\t' || c == '\n'

/-- The tokens of one character that starts no longer token. -/
def single? (c : Char) : Option Token :=
  if c == '.' then some dot
  else if c == '*' then some star
  else if c == ',' then some comma
  else if c == ':' then some colon
  else if c.toNat == 0x7B then some leftBrace
  else if c.toNat == 0x7D then some rightBrace
  else if c == ']' then some rightBracket
  else if c == '(' then some leftParen
  else if c == ')' then some rightParen
  else if c == '@' then some current
  else none

/-! ## 2. Enclosed text -/

/-- Splits at the first `close` that no backslash protects: what stands before
it, what stands after it, and whether it was there. A backslash protects a
backslash and the closing character. -/
def enclosed (close : Char) : List Char → List Char × List Char × Bool
  | [] => ([], [], false)
  | [c] => if c == close then ([], [], true) else ([c], [], false)
  | c :: d :: rest =>
    if c == close then ([], d :: rest, true)
    else if c == '\\' && (d == '\\' || d == close) then
      let (body, after, closed) := enclosed close rest
      (c :: d :: body, after, closed)
    else
      let (body, after, closed) := enclosed close (d :: rest)
      (c :: body, after, closed)

/-- Replaces the first backslash that stands before `c`, and that `c`, by `c`. -/
def unescapeFirst (c : Char) : List Char → List Char
  | a :: b :: rest => if a == '\\' && b == c then c :: rest else a :: unescapeFirst c (b :: rest)
  | cs => cs

/-- Whether the text of a literal is to be read as JSON. -/
def looksLikeJson (cs : List Char) : Bool :=
  match cs with
  | [] => false
  | c :: _ =>
    if c == '[' || c.toNat == 0x7B || c == '"' then true
    else if ["true", "false", "null"].contains (String.ofList cs) then true
    else isNumberChar c && (Json.parse? (String.ofList cs)).isSome

/-- The value of a literal. -/
def literalValue? (body : List Char) : Option Json :=
  let cs := unescapeFirst backtick (body.dropWhile Text.isBlank)
  if looksLikeJson cs then Json.parse? (String.ofList cs)
  else Json.parse? (String.ofList ('"' :: cs ++ ['"']))

/-- The value of a run of digits and dashes: an optional dash, then digits up to
the next dash. -/
def runValue (cs : List Char) : Option Int :=
  match cs with
  | '-' :: rest =>
    let digits := rest.takeWhile Decimal.isDigit
    if digits.isEmpty then none else (Decimal.natOfDigits 10 digits).map fun n => -(n : Int)
  | _ =>
    let digits := cs.takeWhile Decimal.isDigit
    if digits.isEmpty then none else (Decimal.natOfDigits 10 digits).map fun n => (n : Int)

/-! ## 3. Cutting -/

/-- The token of an operator that starts with `c`, and what follows it. A single
`=` is no operator. -/
def operator? (c : Char) (rest : List Char) : Option (Token × List Char) :=
  match c, rest with
  | '!', '=' :: more => some (compare .ne, more)
  | '!', more => some (not, more)
  | '<', '=' :: more => some (compare .le, more)
  | '<', more => some (compare .lt, more)
  | '>', '=' :: more => some (compare .ge, more)
  | '>', more => some (compare .gt, more)
  | '=', '=' :: more => some (compare .eq, more)
  | '&', '&' :: more => some (and, more)
  | '&', more => some (reference, more)
  | '|', '|' :: more => some (or, more)
  | '|', more => some (pipe, more)
  | '[', '?' :: more => some (filter, more)
  | '[', ']' :: more => some (flatten, more)
  | '[', more => some (leftBracket, more)
  | _, _ => none

/-- Cuts a query into tokens; `place` counts the tokens before. Fuel bounds the
steps, each of which takes a character. -/
def cut : Nat → Nat → List Char → Except Problem (List Token)
  | 0, _, _ => .ok []
  | _ + 1, _, [] => .ok []
  | fuel + 1, place, c :: rest =>
    let next (t : Token) (more : List Char) : Except Problem (List Token) :=
      (cut fuel (place + 1) more).map (t :: ·)
    if isNameStart c then
      next (name (String.ofList (c :: rest.takeWhile isNameChar))) (rest.dropWhile isNameChar)
    else match single? c with
      | some t => next t rest
      | none =>
        if isNumberChar c then
          next (number (runValue (c :: rest.takeWhile isNumberChar)))
            (rest.dropWhile isNumberChar)
        else match operator? c rest with
          | some (t, more) => next t more
          | none =>
            if c == '"' then
              let (body, after, closed) := enclosed '"' rest
              if closed then
                match Json.parse? (String.ofList ('"' :: body ++ ['"'])) with
                | some (.str s) => next (quotedName s) after
                | _ => .error .badQuotedName
              else .error .badQuotedName
            else if c == '\'' then
              let (body, after, _) := enclosed '\'' rest
              next (literal place (.str (String.ofList (unescapeFirst '\'' body)))) after
            else if c == backtick then
              let (body, after, _) := enclosed backtick rest
              match literalValue? body with
              | some v => next (literal place v) after
              | none => .error .badLiteral
            else if isSeparator c then cut fuel place rest
            else .error (.badCharacter c)

/-- The tokens of a query. -/
def ofText (query : String) : Except Problem (List Token) :=
  let cs := query.toList
  cut (cs.length + 1) 0 cs

end Token

end MagnumClient.Query
