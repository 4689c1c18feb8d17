/-
MagnumClient.Text.Decomposition — characters that stand for others.

A character may decompose: canonically, which means that it is just another
spelling (`é` is `e` and an accent), or as a form of other characters (a
full-width letter, a circled digit, a ligature). `decomposition?` takes one step;
its parts may decompose further.

The syllables of Hangul are laid out by rule, so their parts are computed.
-/
import MagnumClient.Text.CodeTable
import MagnumClient.Text.Decomposition.Table

namespace MagnumClient.Text

/-- How a character stands for others. -/
inductive Form where
  | canonical
  | circle | compat | final | font | fraction | initial | isolated | medial | narrow | noBreak
  | small | square | sub | super | vertical | wide
deriving Repr, DecidableEq

/-- The form of a heading. -/
def Form.ofName (name : List Char) : Form :=
  match String.ofList name with
  | "circle" => circle
  | "compat" => compat
  | "final" => final
  | "font" => font
  | "fraction" => fraction
  | "initial" => initial
  | "isolated" => isolated
  | "medial" => medial
  | "narrow" => narrow
  | "noBreak" => noBreak
  | "small" => small
  | "square" => square
  | "sub" => sub
  | "super" => super
  | "vertical" => vertical
  | "wide" => wide
  | _ => canonical

/-! ## Hangul -/

namespace Hangul

/-- The first syllable, and the first of each kind of part. The first final part
stands for having none. -/
structure Layout where
  syllable : Nat
  lead : Nat
  vowel : Nat
  tail : Nat

/-- Where syllables and their parts stand. -/
def layout : Layout := ⟨0xAC00, 0x1100, 0x1161, 0x11A7⟩

/-- How many leads, vowels and tails there are. -/
def leads : Nat := 19

/-- How many vowels there are. -/
def vowels : Nat := 21

/-- How many tails there are, counting none as one. -/
def tails : Nat := 28

/-- Whether a code point is a syllable. -/
def isSyllable (code : Nat) : Bool :=
  layout.syllable ≤ code && code < layout.syllable + leads * vowels * tails

/-- The two parts of a syllable: one with a tail is a shorter one and the tail. -/
def parts (code : Nat) : List Nat :=
  let place := code - layout.syllable
  if place % tails == 0 then
    [layout.lead + place / (vowels * tails), layout.vowel + place % (vowels * tails) / tails]
  else [code - place % tails, layout.tail + place % tails]

/-- The syllable of a lead and a vowel, or of a syllable without a tail and a
tail. -/
def compose? (first second : Nat) : Option Nat :=
  if layout.lead ≤ first && first < layout.lead + leads &&
      layout.vowel ≤ second && second < layout.vowel + vowels then
    some (layout.syllable +
      ((first - layout.lead) * vowels + (second - layout.vowel)) * tails)
  else if isSyllable first && (first - layout.syllable) % tails == 0 &&
      layout.tail < second && second < layout.tail + tails then
    some (first + (second - layout.tail))
  else none

end Hangul

/-! ## Decomposition -/

/-- The spans of characters that decompose. -/
def Decomposition.spans : List (Span (Image Form)) :=
  imageSpans Form.ofName .canonical 0 (tableWords Decomposition.decompositions)

/-- The characters that decompose. -/
def Decomposition.table : CodeTable (Image Form) := CodeTable.ofSpans Decomposition.spans

/-- What a character decomposes into, one step deep, and how. -/
def decomposition? (code : Nat) : Option (Form × List Nat) :=
  if Hangul.isSyllable code then some (.canonical, Hangul.parts code)
  else Decomposition.table.image? code

end MagnumClient.Text
