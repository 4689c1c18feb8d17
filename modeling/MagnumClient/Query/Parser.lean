/-
MagnumClient.Query.Parser — how tokens become an expression.

The parser is driven by binding powers: an expression starts with what its first
token says (`first`), and as long as the next token binds tighter than the
context, that token continues it (`continued`). After `[*]`, `.*`, `[]`, a slice
and a filter comes a projection, whose right side (`projected`) is applied to
every element.

All functions recurse on fuel. Each call takes a token or hands a shorter rest
to the next one, so a small multiple of the number of tokens is enough; running
out is the error `tooDeep`.
-/
import MagnumClient.Query.Reified

namespace MagnumClient.Query

namespace Expr

/-! ## 1. Binding powers -/

/-- How tightly a token continues an expression. `none` (a colon, a literal)
continues nothing, and unlike zero cannot follow a projection either. The end of
the query binds like zero. -/
def power : List Token → Option Nat
  | [] => some 0
  | t :: _ =>
    match t with
    | .pipe => some 1
    | .or => some 2
    | .and => some 3
    | .compare _ => some 5
    | .flatten => some 9
    | .star => some 20
    | .filter => some 21
    | .dot => some 40
    | .not => some 45
    | .leftBrace => some 50
    | .leftBracket => some 55
    | .leftParen => some 60
    | .colon => none
    | .literal _ _ => none
    | _ => some 0

/-- Whether the next token continues an expression in a context. -/
def continues (context : Nat) (ts : List Token) : Bool :=
  match power ts with
  | some p => context < p
  | none => false

/-- The name that a call takes from the expression before its parenthesis. -/
def callName : Expr → Option String
  | field name => some name
  | call name _ => name
  | compare .eq _ _ => some "EQ"
  | compare .ne _ _ => some "NE"
  | compare .lt _ _ => some "LT"
  | compare .le _ _ => some "LTE"
  | compare .gt _ _ => some "GT"
  | compare .ge _ _ => some "GTE"
  | _ => none

/-- Drops the token that must come next. -/
def expect (isIt : Token → Bool) : List Token → Except Problem (List Token)
  | t :: rest => if isIt t then .ok rest else .error .unexpectedToken
  | [] => .error .unexpectedToken

/-- Whether a token is `]`. -/
def isRightBracket : Token → Bool
  | .rightBracket => true
  | _ => false

/-! ## 2. Indices and slices -/

/-- Reads at most three slice parts. A colon moves to the next part; a number
sets the part, and a later one sets it again. -/
def sliceParts : List Token → Nat → SlicePart × SlicePart × SlicePart →
    Except Problem ((SlicePart × SlicePart × SlicePart) × List Token)
  | .rightBracket :: rest, _, parts => .ok (parts, rest)
  | .colon :: rest, i, parts =>
    if i < 3 then sliceParts rest (i + 1) parts else .error .unexpectedToken
  | .number n :: rest, i, (a, b, c) =>
    match i with
    | 0 => sliceParts rest i (.number n, b, c)
    | 1 => sliceParts rest i (a, .number n, c)
    | 2 => sliceParts rest i (a, b, .number n)
    | _ => .error .unexpectedToken
  | _, _, _ => .error .unexpectedToken

/-- Reads what follows `[` when it starts with a number or a colon. -/
def readIndex (ts : List Token) : Except Problem (Expr × List Token) :=
  let sliced := match ts with
    | .colon :: _ => true
    | _ :: .colon :: _ => true
    | _ => false
  if sliced then
    (sliceParts ts 0 (.absent, .absent, .absent)).map fun ((a, b, c), rest) => (slice a b c, rest)
  else
    match ts with
    | .number n :: rest =>
      (expect isRightBracket rest).map fun rest => (index (Position.ofNumber n), rest)
    | _ => .error .unexpectedToken

/-- Whether a bracket holds an index or a slice. -/
def startsIndex : List Token → Bool
  | .number _ :: _ => true
  | .colon :: _ => true
  | _ => false

/-! ## 3. Expressions -/

mutual

/-- Reads an expression in a context. -/
def parse : Nat → Nat → List Token → Except Problem (Expr × List Token)
  | 0, _, _ => .error .tooDeep
  | _ + 1, _, [] => .error .unexpectedToken
  | fuel + 1, context, t :: rest => do
    let (left, rest) ← first fuel t rest
    continued fuel context left rest

/-- Continues an expression as long as the next token binds tighter than the
context. -/
def continued : Nat → Nat → Expr → List Token → Except Problem (Expr × List Token)
  | 0, _, _, _ => .error .tooDeep
  | fuel + 1, context, left, ts =>
    if continues context ts then
      match ts with
      | [] => .ok (left, [])
      | t :: rest => do
        let (left, rest) ← next fuel t left rest
        continued fuel context left rest
    else .ok (left, ts)

/-- What a token means at the start of an expression. -/
def first : Nat → Token → List Token → Except Problem (Expr × List Token)
  | 0, _, _ => .error .tooDeep
  | fuel + 1, t, rest =>
    match t with
    | .literal place v => .ok (literal (Value.ofJson (Label.literal place) v 0).1, rest)
    | .name s => .ok (field s, rest)
    | .quotedName s =>
      match rest with
      | .leftParen :: _ => .error .unexpectedToken
      | _ => .ok (field s, rest)
    | .not => do
      let (e, rest) ← parse fuel 45 rest
      return (not e, rest)
    | .star =>
      match rest with
      | .rightBracket :: _ => .ok (projectValues identity identity, rest)
      | _ => do
        let (right, rest) ← projected fuel 20 rest
        return (projectValues identity right, rest)
    | .filter => filtered fuel identity rest
    | .leftBrace => readHash fuel rest []
    | .flatten => do
      let (right, rest) ← projected fuel 9 rest
      return (project (flatten identity) right, rest)
    | .leftBracket =>
      if startsIndex rest then do
        let (right, rest) ← readIndex rest
        projectIfSlice fuel identity right rest
      else
        match rest with
        | .star :: .rightBracket :: rest => do
          let (right, rest) ← projected fuel 20 rest
          return (project identity right, rest)
        | _ => readList fuel rest []
    | .current => .ok (current, rest)
    | .reference => do
      let (e, rest) ← parse fuel 0 rest
      return (reference (e.toValue (Label.part rest.length) 0).1, rest)
    | .leftParen => do
      let (items, rest) ← readItems fuel false rest []
      return (items.head?.getD missing, rest)
    | _ => .error .unexpectedToken

/-- What a token means after an expression. -/
def next : Nat → Token → Expr → List Token → Except Problem (Expr × List Token)
  | 0, _, _, _ => .error .tooDeep
  | fuel + 1, t, left, rest =>
    match t with
    | .dot =>
      match rest with
      | .star :: rest => do
        let (right, rest) ← projected fuel 40 rest
        return (projectValues left right, rest)
      | _ => do
        let (right, rest) ← afterDot fuel 40 rest
        return (sub left right, rest)
    | .pipe => do
      let (right, rest) ← parse fuel 1 rest
      return (pipe left right, rest)
    | .or => do
      let (right, rest) ← parse fuel 2 rest
      return (or left right, rest)
    | .and => do
      let (right, rest) ← parse fuel 3 rest
      return (and left right, rest)
    | .compare op => do
      let (right, rest) ← parse fuel 5 rest
      return (compare op left right, rest)
    | .leftParen =>
      match left with
      | missing => .error .unexpectedToken
      | _ => do
        let (args, rest) ← readItems fuel true rest []
        return (call left.callName args, rest)
    | .filter => filtered fuel left rest
    | .flatten => do
      let (right, rest) ← projected fuel 9 rest
      return (project (flatten left) right, rest)
    | .leftBracket =>
      if startsIndex rest then do
        let (right, rest) ← readIndex rest
        projectIfSlice fuel left right rest
      else
        match rest with
        | .star :: .rightBracket :: rest => do
          let (right, rest) ← projected fuel 20 rest
          return (project left right, rest)
        | _ => .error .unexpectedToken
    | _ => .error .unexpectedToken

/-- Reads the condition of a filter and what is projected from the elements that
pass it. -/
def filtered : Nat → Expr → List Token → Except Problem (Expr × List Token)
  | 0, _, _ => .error .tooDeep
  | fuel + 1, left, rest => do
    let (condition, rest) ← parse fuel 0 rest
    let rest ← expect isRightBracket rest
    match rest with
    | .flatten :: _ => return (projectWhere left identity condition, rest)
    | _ => do
      let (right, rest) ← projected fuel 21 rest
      return (projectWhere left right condition, rest)

/-- An index is applied as it stands; a slice is projected. -/
def projectIfSlice : Nat → Expr → Expr → List Token → Except Problem (Expr × List Token)
  | 0, _, _, _ => .error .tooDeep
  | fuel + 1, left, right, rest =>
    match right with
    | slice _ _ _ => do
      let (item, rest) ← projected fuel 20 rest
      return (project (indexed left right) item, rest)
    | _ => .ok (indexed left right, rest)

/-- Reads the right side of a projection. -/
def projected : Nat → Nat → List Token → Except Problem (Expr × List Token)
  | 0, _, _ => .error .tooDeep
  | fuel + 1, context, ts =>
    match power ts with
    | none => .error .unexpectedToken
    | some p =>
      if p < 10 then .ok (identity, ts)
      else
        match ts with
        | .leftBracket :: _ => parse fuel context ts
        | .filter :: _ => parse fuel context ts
        | .dot :: rest => afterDot fuel context rest
        | _ => .error .unexpectedToken

/-- Reads what follows a dot. -/
def afterDot : Nat → Nat → List Token → Except Problem (Expr × List Token)
  | 0, _, _ => .error .tooDeep
  | fuel + 1, context, ts =>
    match ts with
    | .name _ :: _ => parse fuel context ts
    | .quotedName _ :: _ => parse fuel context ts
    | .star :: _ => parse fuel context ts
    | .leftBracket :: rest => readList fuel rest []
    | .leftBrace :: rest => readHash fuel rest []
    | _ => .ok (missing, ts)

/-- Reads the items of a list up to its `]`. A comma between items may be left
out, one before the `]` is an error. -/
def readList : Nat → List Token → List Expr → Except Problem (Expr × List Token)
  | 0, _, _ => .error .tooDeep
  | fuel + 1, ts, acc =>
    match ts with
    | .rightBracket :: rest => .ok (list acc.reverse, rest)
    | _ => do
      let (e, rest) ← parse fuel 0 ts
      match rest with
      | .comma :: .rightBracket :: _ => .error .unexpectedToken
      | .comma :: rest => readList fuel rest (e :: acc)
      | _ => readList fuel rest (e :: acc)

/-- Reads the pairs of a hash up to its brace. -/
def readHash : Nat → List Token → List (String × Expr) → Except Problem (Expr × List Token)
  | 0, _, _ => .error .tooDeep
  | fuel + 1, ts, acc =>
    let pair (key : String) (rest : List Token) : Except Problem (Expr × List Token) := do
      let (e, rest) ← parse fuel 0 rest
      match rest with
      | .comma :: rest => readHash fuel rest ((key, e) :: acc)
      | .rightBrace :: rest => .ok (hash ((key, e) :: acc).reverse, rest)
      | _ => readHash fuel rest ((key, e) :: acc)
    match ts with
    | .name key :: .colon :: rest => pair key rest
    | .quotedName key :: .colon :: rest => pair key rest
    | _ => .error .unexpectedToken

/-- Reads the items between parentheses. An `@` in front is an item by itself;
between arguments a comma may stand. -/
def readItems : Nat → Bool → List Token → List Expr → Except Problem (List Expr × List Token)
  | 0, _, _, _ => .error .tooDeep
  | fuel + 1, commas, ts, acc =>
    match ts with
    | .rightParen :: rest => .ok (acc.reverse, rest)
    | _ => do
      let (e, rest) ← match ts with
        | .current :: rest => .ok (current, rest)
        | _ => parse fuel 0 ts
      match commas, rest with
      | true, .comma :: rest => readItems fuel commas rest (e :: acc)
      | _, _ => readItems fuel commas rest (e :: acc)

end

/-- The expression that a query writes. -/
def ofText (query : String) : Except Problem Expr := do
  let tokens ← Token.ofText query
  let (e, rest) ← parse (8 * tokens.length + 16) 0 tokens
  if rest.isEmpty then return e else throw .unexpectedToken

end Expr

end MagnumClient.Query
