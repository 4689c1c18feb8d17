/-
MagnumClient.Wildcard.Source — a wildcard as the text of a regular expression.

Names are tested with a regular expression, so a wildcard is first written as
one: `*` becomes `.*`, `?` becomes `.`, every other unit stands for itself with
the punctuation of the notation escaped, and a closed set becomes a class. In a
class backslashes are doubled, a leading `!` becomes the `^` of a negated class,
a leading `^` or `[` is escaped, and so is every `]`.

`matcher?` reads that text back. It is `none` exactly when a set holds a range
that runs backwards; such a wildcard matches no name but itself.
-/
import MagnumClient.Wildcard.Pattern
import MagnumClient.Wildcard.Regex

namespace MagnumClient.Wildcard

open Text (CodeUnit)

/-! ## 1. Sets -/

/-- How many units after `[` are passed over before the end of the set is
looked for: a `!`, and a `]` right after that. -/
def lead : List CodeUnit → Nat
  | u :: v :: _ => if u = bang then (if v = closing then 2 else 1) else if u = closing then 1 else 0
  | [u] => if u = bang ∨ u = closing then 1 else 0
  | [] => 0

/-- The body of the set that starts after a `[`, and what follows its `]`. -/
def closedSet? (rest : List CodeUnit) : Option (List CodeUnit × List CodeUnit) :=
  let n := lead rest
  match (rest.drop n).dropWhile (· ≠ closing) with
  | [] => none
  | _ :: after => some (rest.take n ++ (rest.drop n).takeWhile (· ≠ closing), after)

/-- Writes every occurrence of a unit with a backslash before it. -/
def escapeEach (target : CodeUnit) (us : List CodeUnit) : List CodeUnit :=
  us.flatMap fun u => if u = target then [Regex.backslash, u] else [u]

/-- The content of the class that the body of a set becomes. -/
def classBody (body : List CodeUnit) : List CodeUnit :=
  escapeEach closing <|
    match escapeEach Regex.backslash body with
    | [] => []
    | u :: rest =>
      if u = bang then Regex.caret :: rest
      else if u = Regex.caret ∨ u = opening then Regex.backslash :: u :: rest
      else u :: rest

/-! ## 2. Whole patterns -/

/-- The units that are escaped outside a class: `. * + ? ^ $ { } ( ) | [ ] \ /`. -/
def isSpecial (u : CodeUnit) : Bool := Regex.isSyntax u || u == 0x2F

theorem length_closedSet {rest body after : List CodeUnit}
    (h : closedSet? rest = some (body, after)) : after.length < rest.length + 1 := by
  unfold closedSet? at h
  dsimp only at h
  split at h
  · simp at h
  · rename_i u tail heq
    simp only [Option.some.injEq, Prod.mk.injEq] at h
    obtain ⟨_, rfl⟩ := h
    have h1 : ((rest.drop (lead rest)).dropWhile (· ≠ closing)).length
        ≤ (rest.drop (lead rest)).length := List.IsSuffix.length_le (List.dropWhile_suffix _)
    rw [heq] at h1
    simp only [List.length_cons, List.length_drop] at h1
    omega

/-- The text of a wildcard as a regular expression, without its anchors. -/
def source (us : List CodeUnit) : List CodeUnit :=
  match us with
  | [] => []
  | u :: rest =>
    if u = star then Regex.point :: Regex.asterisk :: source rest
    else if u = question then Regex.point :: source rest
    else if u = opening then
      match _h : closedSet? rest with
      | none => Regex.backslash :: opening :: source rest
      | some (body, after) =>
        Regex.openClass :: (classBody body ++ Regex.closeClass :: source after)
    else if isSpecial u then Regex.backslash :: u :: source rest
    else u :: source rest
termination_by us.length
decreasing_by
  all_goals simp_wf
  have := length_closedSet _h
  omega

/-- The anchored text of a wildcard. -/
def anchored (us : List CodeUnit) : List CodeUnit :=
  Regex.caret :: (source us ++ [Regex.dollar])

/-- A compiled wildcard. -/
structure Matcher where
  terms : List Regex.Term

/-- Compiles a wildcard. -/
def matcher? (pattern : String) : Option Matcher :=
  match Regex.ofSource (anchored (Text.units pattern)) with
  | .ok terms => some ⟨terms⟩
  | .error _ => none

/-- Whether the compiled wildcard matches the whole text. -/
def Matcher.test (m : Matcher) (value : String) : Bool := Regex.test m.terms (Text.units value)

end MagnumClient.Wildcard
