/-
MagnumClient.Wildcard.Pattern — what a shell-style wildcard means.

A pattern is read over UTF-16 code units from left to right: `*` stands for any
run of units, `?` for any one unit, a closed `[...]` for one unit of a set (or
one outside it, when the set starts with `!`), and every other unit for itself.
The first unit of a set always belongs to it, so a `]` right after `[` or `[!`
is a member and not the end. Inside a set `x-y` is the inclusive range, read
left to right; a dash that has no unit on both sides left for it is a member.

`Pattern.Matches` is the meaning, an inductive relation on the pieces;
`Pattern.InOrder` says that no range runs backwards. The matcher that names are
really tested with is built another way, through the text of a regular
expression (`Wildcard.Source`); this module is what it is held against.
-/
import MagnumClient.Text.Units

namespace MagnumClient.Wildcard

open Text (CodeUnit)

/-! ## 1. The units with a meaning -/

/-- The asterisk, `*`. -/
def star : CodeUnit := 0x2A
/-- The question mark, `?`. -/
def question : CodeUnit := 0x3F
/-- The opening bracket, `[`. -/
def opening : CodeUnit := 0x5B
/-- The closing bracket, `]`. -/
def closing : CodeUnit := 0x5D
/-- The exclamation mark, `!`. -/
def bang : CodeUnit := 0x21
/-- The dash, `-`. -/
def dash : CodeUnit := 0x2D

/-! ## 2. Pieces -/

/-- A member of a set: one unit, or the units from `low` to `high`. -/
inductive Member where
  | one (unit : CodeUnit)
  | range (low high : CodeUnit)
deriving DecidableEq, Repr

/-- A piece of a pattern. -/
inductive Piece where
  | run
  | any
  | exact (unit : CodeUnit)
  | set (negated : Bool) (members : List Member)
deriving DecidableEq, Repr

/-- A pattern, from left to right. -/
abbrev Pattern := List Piece

/-- Whether a unit is (in) the member. -/
def Member.admits (u : CodeUnit) : Member → Bool
  | one v => u == v
  | range low high => low ≤ u && u ≤ high

/-- Whether the member's range, if it is one, does not run backwards. -/
def Member.inOrder : Member → Bool
  | one _ => true
  | range low high => low ≤ high

/-- Whether the piece admits the unit where it stands for exactly one. -/
def Piece.admits (u : CodeUnit) : Piece → Bool
  | run => true
  | any => true
  | exact v => u == v
  | set negated members => (members.any (·.admits u)) != negated

/-- Whether all ranges of the piece run forwards. -/
def Piece.inOrder : Piece → Bool
  | set _ members => members.all (·.inOrder)
  | _ => true

/-- No range of the pattern runs backwards. -/
def Pattern.InOrder (p : Pattern) : Prop := ∀ piece ∈ p, piece.inOrder = true

/-! ## 3. Reading -/

/-- Reads the members of a set. -/
def Member.read : List CodeUnit → List Member
  | x :: d :: y :: more =>
    if d = dash then range x y :: read more else one x :: read (d :: y :: more)
  | x :: rest => one x :: read rest
  | [] => []

/-- Splits at the first `]`: what stands before it and what stands after. -/
def untilClosing : List CodeUnit → Option (List CodeUnit × List CodeUnit)
  | [] => none
  | u :: rest =>
    if u = closing then some ([], rest)
    else (untilClosing rest).map fun (body, after) => (u :: body, after)

/-- Reads a set after its `[` and `!`: its first unit is a member whatever it
is. -/
def setBody : List CodeUnit → Option (List CodeUnit × List CodeUnit)
  | [] => none
  | u :: rest => (untilClosing rest).map fun (body, after) => (u :: body, after)

/-- Reads a set after its `[`; `none` if the set is not closed. -/
def Piece.readSet : List CodeUnit → Option (Piece × List CodeUnit)
  | [] => none
  | u :: rest =>
    if u = bang then (setBody rest).map fun (body, after) => (set true (Member.read body), after)
    else (setBody (u :: rest)).map fun (body, after) => (set false (Member.read body), after)

theorem length_untilClosing {us body after : List CodeUnit}
    (h : untilClosing us = some (body, after)) : after.length < us.length := by
  induction us generalizing body with
  | nil => simp [untilClosing] at h
  | cons u us ih =>
    unfold untilClosing at h
    split at h
    · simp only [Option.some.injEq, Prod.mk.injEq] at h
      simp [← h.2]
    · obtain ⟨⟨b, a⟩, hb, he⟩ := Option.map_eq_some_iff.1 h
      simp only [Prod.mk.injEq] at he
      obtain ⟨rfl, rfl⟩ := he
      have := ih hb
      simp only [List.length_cons]
      omega

theorem length_setBody {us body after : List CodeUnit} (h : setBody us = some (body, after)) :
    after.length < us.length := by
  cases us with
  | nil => simp [setBody] at h
  | cons u us =>
    obtain ⟨⟨b, a⟩, hb, he⟩ := Option.map_eq_some_iff.1 h
    simp only [Prod.mk.injEq] at he
    obtain ⟨rfl, rfl⟩ := he
    have := length_untilClosing hb
    simp only [List.length_cons]
    omega

theorem Piece.length_readSet {us after : List CodeUnit} {piece : Piece}
    (h : Piece.readSet us = some (piece, after)) : after.length < us.length := by
  cases us with
  | nil => simp [readSet] at h
  | cons u us =>
    by_cases hu : u = bang
    · simp only [readSet, hu, if_true] at h
      obtain ⟨⟨b, a⟩, hb, he⟩ := Option.map_eq_some_iff.1 h
      have := length_setBody hb
      simp only [Prod.mk.injEq] at he
      simp only [List.length_cons, ← he.2]
      omega
    · simp only [readSet, hu, if_false] at h
      obtain ⟨⟨b, a⟩, hb, he⟩ := Option.map_eq_some_iff.1 h
      have := length_setBody hb
      simp only [Prod.mk.injEq] at he
      simpa only [← he.2] using this

/-- Reads a pattern. A `[` that is not closed stands for itself. -/
def Pattern.read (us : List CodeUnit) : Pattern :=
  match us with
  | [] => []
  | u :: rest =>
    if u = star then .run :: read rest
    else if u = question then .any :: read rest
    else if u = opening then
      match _h : Piece.readSet rest with
      | some (piece, after) => piece :: read after
      | none => .exact u :: read rest
    else .exact u :: read rest
termination_by us.length
decreasing_by
  all_goals simp_wf
  have := Piece.length_readSet _h
  omega

/-! ## 4. Meaning -/

/-- Whether the whole of `v` is what the pattern stands for. -/
inductive Pattern.Matches : Pattern → List CodeUnit → Prop where
  | nil : Matches [] []
  | run {p v} (skipped : List CodeUnit) : Matches p v → Matches (.run :: p) (skipped ++ v)
  | unit {piece p u v} : piece ≠ .run → piece.admits u = true → Matches p v →
      Matches (piece :: p) (u :: v)

end MagnumClient.Wildcard
