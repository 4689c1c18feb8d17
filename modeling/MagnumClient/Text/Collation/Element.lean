/-
MagnumClient.Text.Collation.Element — what the characters of a text weigh.

A text weighs as a list of elements. An element has three weights: its letter,
its accent and its variant (capital, full-width, circled and so on); a weight of
zero does not count. Most characters have one element, an accent has one without
a letter, a ligature has several, and what does not count at all has none.

The alphabet tells the weights of what it lists. Everything else follows: what
decomposes weighs what its parts weigh, in the variant of its form; a capital
weighs what its small letter weighs, in the variant of capitals; ideographs, and
characters that no table knows, come after all letters by code point.

Some letters are spelled with several characters. Of those that start at a place
the longest counts, and the marks of such a letter may stand among others. In
four scripts a vowel is written before its consonant and weighs after it.
-/
import MagnumClient.Text.CaseFolding
import MagnumClient.Text.Collation.Alphabet
import MagnumClient.Text.Normalization

namespace MagnumClient.Text.Collation

/-- The weights of an element: its letter, its accent, its variant. -/
structure Element where
  letter : Nat
  accent : Nat
  variant : Nat
deriving Repr, DecidableEq

/-! ## 1. Variants -/

/-- The variant of a small letter. -/
def usual : Nat := 2

/-- The accent weight of a letter by itself. -/
def bare : Nat := 0x20

/-- The variant of a form of letters. -/
def variantOfForm : Form → Nat
  | .canonical => 2
  | .wide => 3
  | .compat => 4
  | .font => 5
  | .circle => 6
  | .small => 0xF
  | .narrow => 0x12
  | .super => 0x14
  | .sub => 0x15
  | .vertical => 0x16
  | .initial => 0x17
  | .medial => 0x18
  | .final => 0x19
  | .isolated => 0x1A
  | .noBreak => 0x1B
  | .square => 0x1C
  | .fraction => 0x1E

/-- The variant of a form of capitals, where it is a variant of its own. -/
def capitalVariant? : Form → Option Nat
  | .wide => some 9
  | .compat => some 0xA
  | .font => some 0xB
  | .circle => some 0xC
  | .square => some 0x1D
  | .super => some 0x1D
  | _ => none

/-- The variant that a variant has in a form. Of the variants of kana, those of
large circled and of small narrow letters are told apart. -/
def inForm (form : Form) (variant : Nat) : Nat :=
  match form, variant with
  | _, 0 => 0
  | .super, 0xA => variantOfForm .super
  | .circle, 0x11 => 0x13
  | .narrow, 0xF => 0x10
  | form, variant =>
    if variant == 8 || variant == 0xA then (capitalVariant? form).getD (variantOfForm form)
    else variantOfForm form

/-- An element in a form. -/
def Element.inForm (form : Form) (e : Element) : Element :=
  { e with variant := Collation.inForm form e.variant }

/-- The element of a capital, from that of its small letter. -/
def Element.raised (e : Element) : Element :=
  if e.letter == 0 then e
  else if e.variant == 2 then { e with variant := 8 }
  else if e.variant == 4 then { e with variant := 0xA }
  else e

/-! ## 2. Characters outside the alphabet -/

/-- Ideographs in common use. -/
def commonIdeographs : CodeSet := CodeSet.ofText
  "4E00-9FFF FA0E-FA0F FA11 FA13-FA14 FA1F FA21 FA23-FA24 FA27-FA29"

/-- Other ideographs. -/
def rareIdeographs : CodeSet := CodeSet.ofText
  "3400-4DBF 20000-2A6DF 2A700-2EBE0 2EBF0-2EE5D 30000-323AF"

/-- Scripts whose characters are numbered from the first code point of the
heading. -/
def numberedScripts : CodeTable Nat := CodeTable.ofText hexNumber 0
  "=17000 17000-18AFF 18D00-18D8F =18B00 18B00-18CFF =1B170 1B170-1B2FF"

/-- The place of a numbered script behind the alphabet. -/
def scriptPlace (start : Nat) : Nat :=
  if start == 0x17000 then 0xFB00 else if start == 0x1B170 then 0xFB01 else 0xFB02

/-- The elements of a character that the alphabet does not list: a place for its
group and then one inside it. -/
def unlisted (code variant : Nat) : List Element :=
  match numberedScripts.get? code with
  | some start => [⟨scriptPlace start, bare, variant⟩, ⟨0x8000 + (code - start), 0, 0⟩]
  | none =>
    let group := if commonIdeographs.holds code then 0xFB40
      else if rareIdeographs.holds code then 0xFB80 else 0xFBC0
    [⟨group + code / 0x8000, bare, variant⟩, ⟨0x8000 + code % 0x8000, 0, 0⟩]

/-! ## 3. The alphabet -/

/-- An entry of the alphabet: one character, `more` characters after it, or one
letter spelled with several characters. -/
structure Entry where
  codes : List Nat
  more : Nat
  letter : Nat
  variant : Nat
  stepping : Bool

/-- The variant that a word names. -/
def variantNamed : Option (List Char) → Nat
  | none => usual
  | some [] => usual
  | some digits => hexNumber digits

/-- The entries of the alphabet, where `last` is the letter weight given last. -/
def entriesAfter : Nat → List (List Char) → List Entry
  | _, [] => []
  | last, word :: rest =>
    let (body, same) := splitWord '~' word
    let (body, fresh) := splitWord ':' body
    let (spelling, count) := splitWord '+' body
    let more := (count.map hexNumber).getD 0
    match same with
    | some _ =>
      ⟨hexNumbers spelling, more, last, variantNamed same, false⟩ :: entriesAfter last rest
    | none =>
      ⟨hexNumbers spelling, more, last + 1, variantNamed fresh, true⟩
        :: entriesAfter (last + 1 + more) rest

/-- The entries of the alphabet. The weight 1 is below them all. -/
def entries : List Entry := entriesAfter 1 (tableWords letters)

/-- The entries of single characters. -/
def letterTable : CodeTable Entry := CodeTable.ofSpans <| entries.filterMap fun e =>
  match e.codes with
  | [code] => some ⟨code, code + e.more, e⟩
  | _ => none

/-- The element of a letter. -/
def letter? (code : Nat) : Option Element :=
  (letterTable.find? code).map fun s =>
    ⟨s.value.letter + (if s.value.stepping then code - s.first else 0), bare, s.value.variant⟩

/-- The accents by weight and variant. -/
def accentTable : CodeTable Element := CodeTable.ofText
  (fun heading =>
    let (weight, variant) := splitWord '~' heading
    ⟨0, hexNumber weight, variantNamed variant⟩)
  ⟨0, 0, 0⟩ accents

/-- The elements that a word of an expansion names: an accent by weight, or the
letter of a character, in a variant. -/
def elementsNamed (word : List Char) : List Element :=
  match word with
  | '!' :: rest =>
    let (weight, variant) := splitWord '~' rest
    [⟨0, hexNumber weight, variantNamed variant⟩]
  | _ =>
    let (digits, variant) := splitWord '~' word
    match letter? (hexNumber digits) with
    | some e => [{ e with variant := variantNamed variant }]
    | none => unlisted (hexNumber digits) (variantNamed variant)

/-- The expansions, each with the characters that it is the weight of. -/
def expansionList : List (List Nat × List Element) :=
  ((tableWords expansions).foldr (fun word (elements, done) =>
    match splitWord ':' word with
    | (spelling, some _) => ([], (hexNumbers spelling, elements) :: done)
    | _ => (elementsNamed word ++ elements, done)) ([], [])).2

/-- The expansions of single characters. -/
def expansionTable : CodeTable (List Element) := CodeTable.ofSpans <| expansionList.filterMap
  fun (codes, elements) =>
    match codes with
    | [code] => some ⟨code, code, elements⟩
    | _ => none

/-- The characters that do not count. -/
def unweightedSet : CodeSet := CodeSet.ofText unweighted

/-- The letters that are spelled with several characters, the longest first. -/
def sequences : List (List Nat × List Element) :=
  let spelled := entries.filterMap fun e =>
    if 1 < e.codes.length then some (e.codes, [Element.mk e.letter bare e.variant]) else none
  let expanded := expansionList.filter fun e => 1 < e.1.length
  (spelled ++ expanded).mergeSort fun a b => b.1.length ≤ a.1.length

/-- What the alphabet says of a character. Two code points that are no characters
stand below and above everything, and the sign for an unknown character stands
last but for the second. -/
def listed? (code : Nat) : Option (List Element) :=
  if code == 0xFFFE then some [⟨1, bare, usual⟩]
  else if code == 0xFFFD then some [⟨0xFFFD, bare, usual⟩]
  else if code == 0xFFFF then some [⟨0xFFFE, bare, usual⟩]
  else match letter? code with
    | some e => some [e]
    | none => match accentTable.get? code with
      | some e => some [e]
      | none => match expansionTable.get? code with
        | some es => some es
        | none => if unweightedSet.holds code then some [] else none

/-! ## 4. Spellings -/

/-- The vowels that are written before their consonant, by script. -/
def leadingVowels : CodeTable (List Char) := CodeTable.ofText id []
  "=Lao EC0-EC4 =NewTaiLue 19B5-19B7 19BA =TaiViet AAB5-AAB6 AAB9 AABB-AABC =Thai E40-E44"

/-- The consonants that such vowels are written before. -/
def ledConsonants : CodeTable (List Char) := CodeTable.ofText id []
  "=Lao E81-E82 E84 E86-E8A E8C-EA3 EA5 EA7-EAE EDC-EDF =NewTaiLue 1980-19AB
  =TaiViet AA80-AAAF =Thai E01-E2E"

/-- Whether a vowel leads the consonant after it. -/
def leads (vowel consonant : Nat) : Bool :=
  match leadingVowels.get? vowel, ledConsonants.get? consonant with
  | some a, some b => a == b
  | _, _ => false

/-- Joins to a spelling the marks after it that continue it; `skipped` are those
that do not, backwards. A mark cannot reach over one of its class or of a higher
one. -/
def joinMarks (spelling skipped : List Nat) : List Nat → List Nat × List Nat
  | [] => (spelling, skipped.reverse)
  | code :: rest =>
    if combiningClass code == 0 then (spelling, skipped.reverse ++ code :: rest)
    else
      let free := match skipped with
        | [] => true
        | last :: _ => combiningClass last < combiningClass code
      if free && sequences.any (·.1 == spelling ++ [code]) then
        joinMarks (spelling ++ [code]) skipped rest
      else joinMarks spelling (code :: skipped) rest

/-- The longest spelling of a letter at the start of a text, and what follows
it. -/
def firstSpelling (code : Nat) (rest : List Nat) : List Nat × List Nat :=
  match sequences.find? (·.1.isPrefixOf (code :: rest)) with
  | some (spelling, _) => joinMarks spelling [] (rest.drop (spelling.length - 1))
  | none =>
    if sequences.any (·.1.head? == some code) then joinMarks [code] [] rest else ([code], rest)

/-- The elements of the first letter of a text, from those of its characters, and
what follows it. -/
def weighFirst (single : Nat → List Element) (code : Nat) (rest : List Nat) :
    List Element × List Nat :=
  let (spelling, after) := firstSpelling code rest
  match sequences.find? (·.1 == spelling) with
  | some (_, elements) => (elements, after)
  | none => (single code, after)

/-- The elements of the first letter of a text, or of a leading vowel and its
consonant, and what follows. -/
def weighNext (single : Nat → List Element) (code : Nat) : List Nat → List Element × List Nat
  | [] => weighFirst single code []
  | next :: rest =>
    if leads code next then (single next ++ single code, rest)
    else weighFirst single code (next :: rest)

/-- The elements of a text in canonical spelling, from those of its characters.
Fuel bounds the steps, each of which takes a character. -/
def weigh (single : Nat → List Element) : Nat → List Nat → List Element
  | 0, _ => []
  | _ + 1, [] => []
  | fuel + 1, code :: rest =>
    match weighNext single code rest with
    | (own, after) => own ++ weigh single fuel after

/-- The elements of a character. Fuel bounds how deep forms of forms may nest. -/
def elementsOf : Nat → Nat → List Element
  | 0, code => unlisted code usual
  | fuel + 1, code =>
    match listed? code with
    | some elements => elements
    | none => match decomposition? code with
      | some (form, parts) =>
        let spelling := canonical parts
        (weigh (elementsOf fuel) spelling.length spelling).map (Element.inForm form)
      | none => match folded? code with
        | some small => (elementsOf fuel small).map Element.raised
        | none => unlisted code usual

/-- The elements of a text. -/
def elementsOfText (codes : List Nat) : List Element :=
  let spelling := canonical codes
  weigh (elementsOf maxNesting) spelling.length spelling

end MagnumClient.Text.Collation
