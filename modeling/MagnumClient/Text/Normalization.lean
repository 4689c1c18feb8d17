/-
MagnumClient.Text.Normalization — one spelling for the same text.

Texts are lists of code points here. `decomposed` spells every character out, by
the forms that one asks for, and puts the marks of each letter into the order of
their classes. `composed` then writes letters and marks as single characters
wherever there is one: the longest-standing form of a text, and the shortest.

Marks of one class keep their order, because there it means something. Composing
never reaches over a mark that stands in the way: of two marks of one class only
the first can join the letter.
-/
import Std.Data.HashMap
import MagnumClient.Text.CombiningClass
import MagnumClient.Text.Decomposition

namespace MagnumClient.Text

/-! ## 1. Spelling out -/

/-- Spells a character out by the allowed forms. Fuel bounds the depth, which is
far less in the table. -/
def spellOut (allowed : Form → Bool) : Nat → Nat → List Nat
  | 0, code => [code]
  | fuel + 1, code =>
    match decomposition? code with
    | some (form, parts) =>
      if allowed form then parts.flatMap (spellOut allowed fuel) else [code]
    | none => [code]

/-- How deep decompositions may nest. -/
def maxNesting : Nat := 16

/-- Puts a mark in front of a list that is written backwards, before marks of a
higher class. -/
def placeMark (code : Nat) : List Nat → List Nat
  | [] => [code]
  | last :: before =>
    if combiningClass code != 0 && combiningClass code < combiningClass last then
      last :: placeMark code before
    else code :: last :: before

/-- Marks in the order of their classes, letter by letter. -/
def ordered (codes : List Nat) : List Nat :=
  (codes.foldl (fun before code => placeMark code before) []).reverse

/-- The spelling by the allowed forms. -/
def decomposed (allowed : Form → Bool) (codes : List Nat) : List Nat :=
  ordered (codes.flatMap (spellOut allowed maxNesting))

/-- The canonical spelling: characters that only are other spellings are spelled
out. -/
def canonical (codes : List Nat) : List Nat := decomposed (· == .canonical) codes

/-- The compatible spelling: all forms are spelled out. -/
def compatible (codes : List Nat) : List Nat := decomposed (fun _ => true) codes

/-! ## 2. Composing -/

/-- The characters that composition does not make. -/
def uncomposedSet : CodeSet := CodeSet.ofText Decomposition.uncomposed

/-- The pairs that compose, each with its composite. -/
def compositePairs : List ((Nat × Nat) × Nat) :=
  Decomposition.spans.filterMap fun s =>
    match s.value.label, s.value.codes with
    | .canonical, [a, b] => if uncomposedSet.holds s.first then none else some ((a, b), s.first)
    | _, _ => none

/-- The pairs that compose, as a map. -/
def compositeMap : Std.HashMap (Nat × Nat) Nat := Std.HashMap.ofList compositePairs

/-- The single character for two. -/
def composite? (first second : Nat) : Option Nat :=
  match Hangul.compose? first second with
  | some code => some code
  | none => compositeMap[(first, second)]?

/-- Composes what follows a character; `marks` are those seen since, backwards,
that did not join it. A mark joins unless one of its class, or of a higher one,
stands between. -/
def composeAfter (start : Nat) (marks : List Nat) : List Nat → List Nat
  | [] => start :: marks.reverse
  | code :: rest =>
    let free := match marks with
      | [] => true
      | last :: _ => combiningClass last < combiningClass code
    match (if free then composite? start code else none) with
    | some whole => composeAfter whole marks rest
    | none =>
      if combiningClass code == 0 then start :: marks.reverse ++ composeAfter code [] rest
      else composeAfter start (code :: marks) rest

/-- A canonical spelling with letters and marks joined. -/
def composed : List Nat → List Nat
  | [] => []
  | code :: rest => composeAfter code [] rest

/-- The usual form of a text: spelled out canonically, then composed. -/
def normalized (codes : List Nat) : List Nat := composed (canonical codes)

end MagnumClient.Text
