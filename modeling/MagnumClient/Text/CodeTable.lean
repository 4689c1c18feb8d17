/-
MagnumClient.Text.CodeTable — tables over the code points of characters.

A table of characters is kept as spans of code points, each with a value, in
ascending order, and is searched by halving. Tables are written as text: words
in hexadecimal between blanks and line ends, where a range `300-36F` stands for
all code points in it and a heading `=R` gives the ranges after it their value.

Main statement: what a search finds holds the code point that was searched for
(`find?_holds`), so a table never answers for a neighbour.
-/

namespace MagnumClient.Text

/-! ## 1. Words -/

/-- The characters that separate the words of a table. -/
def isWordBreak (c : Char) : Bool := c == ' ' || c == '\n'

/-- The words of a list of characters, where `word` holds the current one
backwards. -/
def wordsFrom : List Char → List Char → List (List Char)
  | word, [] => if word.isEmpty then [] else [word.reverse]
  | word, c :: rest =>
    if isWordBreak c then
      if word.isEmpty then wordsFrom [] rest else word.reverse :: wordsFrom [] rest
    else wordsFrom (c :: word) rest

/-- The words of a table. -/
def tableWords (text : String) : List (List Char) := wordsFrom [] text.toList

/-- The value of a hexadecimal digit; any other character counts as zero. -/
def hexDigit (c : Char) : Nat :=
  if '0' ≤ c && c ≤ '9' then c.toNat - 0x30
  else if 'A' ≤ c && c ≤ 'F' then c.toNat - 0x37
  else 0

/-- The number that hexadecimal digits write. -/
def hexNumber (cs : List Char) : Nat := cs.foldl (fun n c => n * 16 + hexDigit c) 0

/-- Splits a word at the first `mark`: what stands before it, and what stands
after it if it is there. -/
def splitWord (mark : Char) (word : List Char) : List Char × Option (List Char) :=
  match word.dropWhile (· != mark) with
  | [] => (word, none)
  | _ :: after => (word.takeWhile (· != mark), some after)

/-- The numbers that a word lists, with points between them. -/
def hexNumbers (word : List Char) : List Nat :=
  let (digits, last) := word.foldr
    (fun c (digits, numbers) =>
      if c == '.' then ([], hexNumber digits :: numbers) else (c :: digits, numbers))
    ([], [])
  hexNumber digits :: last

/-! ## 2. Spans -/

/-- A run of code points with one value. -/
structure Span (α : Type) where
  first : Nat
  last : Nat
  value : α

/-- Whether a code point lies in a span. -/
def Span.holds {α : Type} (s : Span α) (code : Nat) : Bool := s.first ≤ code && code ≤ s.last

/-- A table of spans. -/
structure CodeTable (α : Type) where
  spans : Array (Span α)

namespace CodeTable

variable {α : Type}

/-- The table of some spans, in any order. -/
def ofSpans (spans : List (Span α)) : CodeTable α :=
  ⟨(spans.mergeSort fun a b => a.first ≤ b.first).toArray⟩

/-- Searches the spans from place `low` up to place `high`. -/
def search (t : CodeTable α) (code low high : Nat) : Option (Span α) :=
  if low < high then
    match t.spans[(low + high) / 2]? with
    | none => none
    | some s =>
      if code < s.first then search t code low ((low + high) / 2)
      else if s.last < code then search t code ((low + high) / 2 + 1) high
      else some s
  else none
termination_by high - low

/-- The span of a code point. -/
def find? (t : CodeTable α) (code : Nat) : Option (Span α) := t.search code 0 t.spans.size

/-- The value of a code point. -/
def get? (t : CodeTable α) (code : Nat) : Option α := (t.find? code).map (·.value)

theorem search_holds (t : CodeTable α) (code low high : Nat) (s : Span α)
    (h : t.search code low high = some s) : s.holds code = true := by
  fun_induction search t code low high with
  | case1 => simp at h
  | case2 _ _ _ _ _ _ ih => exact ih h
  | case3 _ _ _ _ _ _ _ ih => exact ih h
  | case4 low high _ x _ below above =>
    obtain rfl : x = s := by simpa using h
    simp only [Span.holds, Bool.and_eq_true, decide_eq_true_eq]
    omega
  | case5 => simp at h

/-- A search finds a span only if the code point lies in it. -/
theorem find?_holds (t : CodeTable α) (code : Nat) (s : Span α) (h : t.find? code = some s) :
    s.holds code = true :=
  search_holds t code 0 t.spans.size s h

/-! ## 3. Tables written as text -/

/-- The span that a word writes. -/
def spanOf (value : α) (word : List Char) : Span α :=
  match splitWord '-' word with
  | (first, some last) => ⟨hexNumber first, hexNumber last, value⟩
  | (only, none) => ⟨hexNumber only, hexNumber only, value⟩

/-- The spans under the headings of a table, whose values `read` gives. -/
def spansUnder (read : List Char → α) : α → List (List Char) → List (Span α)
  | _, [] => []
  | value, word :: rest =>
    match word with
    | '=' :: heading => spansUnder read (read heading) rest
    | _ => spanOf value word :: spansUnder read value rest

/-- The table with headings that a text writes; ranges before the first heading
have the value `value`. -/
def ofText (read : List Char → α) (value : α) (text : String) : CodeTable α :=
  ofSpans (spansUnder read value (tableWords text))

end CodeTable

/-! ## 4. Images -/

/-- What code points are sent to, under a label. A single code point in `codes`
is the image of the first code point of a span, and those after it are sent to
the code points after it. -/
structure Image (α : Type) where
  label : α
  codes : List Nat

/-- The image of the code point that is `offset` after the first of a span. -/
def Image.at {α : Type} (image : Image α) (offset : Nat) : List Nat :=
  match image.codes with
  | [code] => [code + offset]
  | codes => codes

/-- The spans that words write. A heading `=circle` labels the images after it,
`C0:` says which code point the next image belongs to, an image takes one code
point, and an image `41+19` takes that many more. -/
def imageSpans {α : Type} (read : List Char → α) :
    α → Nat → List (List Char) → List (Span (Image α))
  | _, _, [] => []
  | label, code, word :: rest =>
    match word, splitWord ':' word, splitWord '+' word with
    | '=' :: heading, _, _ => imageSpans read (read heading) code rest
    | _, (start, some _), _ => imageSpans read label (hexNumber start) rest
    | _, _, (image, some more) =>
      ⟨code, code + hexNumber more, label, [hexNumber image]⟩
        :: imageSpans read label (code + hexNumber more + 1) rest
    | _, _, _ =>
      ⟨code, code, label, hexNumbers word⟩ :: imageSpans read label (code + 1) rest

/-- The image of a code point. -/
def CodeTable.image? {α : Type} (t : CodeTable (Image α)) (code : Nat) : Option (α × List Nat) :=
  (t.find? code).map fun s => (s.value.label, s.value.at (code - s.first))

/-! ## 5. Sets -/

/-- A set of code points. -/
abbrev CodeSet := CodeTable Unit

/-- The set that a text writes as ranges. -/
def CodeSet.ofText (text : String) : CodeSet := CodeTable.ofText (fun _ => ()) () text

/-- Whether a code point belongs to a set. -/
def CodeSet.holds (set : CodeSet) (code : Nat) : Bool := (set.find? code).isSome

end MagnumClient.Text
