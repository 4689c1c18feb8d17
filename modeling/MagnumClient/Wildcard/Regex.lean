/-
MagnumClient.Wildcard.Regex — the regular expressions that names are tested with.

The fragment is what a wildcard needs: an anchored sequence `^ ... $` of atoms,
each of which may be starred, where an atom is the dot, which stands for line
ends too, a unit, an escaped punctuation unit or a class `[...]`, `[^...]`.
Everything is by UTF-16 code unit, so a character outside the Basic Multilingual
Plane is two atoms, and in a class two members.

Reading an expression fails in two ways that are kept apart: a class range that
runs backwards makes the expression no expression at all, and anything outside
the fragment is reported as such.
-/
import MagnumClient.Text.Units

namespace MagnumClient.Wildcard.Regex

open Text (CodeUnit)

/-! ## 1. Expressions -/

/-- What one unit is tested against. -/
inductive Atom where
  | dot
  | unit (u : CodeUnit)
  | cls (negated : Bool) (ranges : List (CodeUnit × CodeUnit))
deriving DecidableEq, Repr

/-- An atom, once or any number of times. -/
structure Term where
  atom : Atom
  starred : Bool
deriving DecidableEq, Repr

/-- Why a text is not read as an expression. -/
inductive Problem where
  | rangeOutOfOrder
  | outsideFragment
deriving DecidableEq, Repr

/-- Whether the atom admits the unit. -/
def Atom.admits (u : CodeUnit) : Atom → Bool
  | dot => true
  | unit v => u == v
  | cls negated ranges => (ranges.any fun r => r.1 ≤ u && u ≤ r.2) != negated

/-- Whether the terms match the whole of the units. -/
def test : List Term → List CodeUnit → Bool
  | [], v => v.isEmpty
  | ⟨a, false⟩ :: ts, v =>
    match v with
    | [] => false
    | u :: v => a.admits u && test ts v
  | ⟨a, true⟩ :: ts, v =>
    test ts v ||
      match v with
      | [] => false
      | u :: v => a.admits u && test (⟨a, true⟩ :: ts) v
termination_by ts v => (ts.length, v.length)

/-! ## 2. The units of the notation -/

/-- The caret, `^`. -/
def caret : CodeUnit := 0x5E
/-- The dollar, `$`. -/
def dollar : CodeUnit := 0x24
/-- The point, `.`. -/
def point : CodeUnit := 0x2E
/-- The asterisk, `*`. -/
def asterisk : CodeUnit := 0x2A
/-- The backslash, `\`. -/
def backslash : CodeUnit := 0x5C
/-- The opening bracket, `[`. -/
def openClass : CodeUnit := 0x5B
/-- The closing bracket, `]`. -/
def closeClass : CodeUnit := 0x5D
/-- The dash, `-`. -/
def hyphen : CodeUnit := 0x2D

/-- The units that do not stand for themselves outside a class:
`^ $ \ . * + ? ( ) [ ] { } |`. -/
def isSyntax (u : CodeUnit) : Bool :=
  [0x5E, 0x24, 0x5C, 0x2E, 0x2A, 0x2B, 0x3F, 0x28, 0x29, 0x5B, 0x5D, 0x7B, 0x7D, 0x7C].contains u

/-- Letters, digits and the underscore: a backslash gives them a meaning of
their own. -/
def isWord (u : CodeUnit) : Bool :=
  (0x30 ≤ u && u ≤ 0x39) || (0x41 ≤ u && u ≤ 0x5A) || (0x61 ≤ u && u ≤ 0x7A) || u == 0x5F

/-! ## 3. Classes -/

/-- A unit of a class and whether it may be the dash of a range. -/
structure ClassUnit where
  unit : CodeUnit
  isDash : Bool
deriving DecidableEq, Repr

/-- Reads the units of a class up to its closing bracket. -/
def classUnits : List CodeUnit → Option (List ClassUnit × List CodeUnit)
  | [] => none
  | u :: rest =>
    if u = closeClass then some ([], rest)
    else if u = backslash then
      match rest with
      | [] => none
      | e :: more =>
        if isWord e then none
        else (classUnits more).map fun (us, after) => (⟨e, false⟩ :: us, after)
    else (classUnits rest).map fun (us, after) => (⟨u, u == hyphen⟩ :: us, after)

/-- Groups the units of a class into ranges, left to right. -/
def classRanges : List ClassUnit → Except Problem (List (CodeUnit × CodeUnit))
  | a :: d :: b :: more =>
    if d.isDash then
      if a.unit ≤ b.unit then (classRanges more).map ((a.unit, b.unit) :: ·)
      else .error .rangeOutOfOrder
    else (classRanges (d :: b :: more)).map ((a.unit, a.unit) :: ·)
  | a :: rest => (classRanges rest).map ((a.unit, a.unit) :: ·)
  | [] => .ok []

theorem length_classUnits {us after : List CodeUnit} {cs : List ClassUnit}
    (h : classUnits us = some (cs, after)) : after.length < us.length := by
  fun_induction classUnits us generalizing cs with
  | case1 => simp at h
  | case2 rest =>
    simp only [Option.some.injEq, Prod.mk.injEq] at h
    simp [← h.2]
  | case3 => simp at h
  | case4 => simp at h
  | case5 e more _ _ ih =>
    obtain ⟨⟨c, a⟩, hc, he⟩ := Option.map_eq_some_iff.1 h
    simp only [Prod.mk.injEq] at he
    obtain ⟨rfl, rfl⟩ := he
    have := ih hc
    simp only [List.length_cons]
    omega
  | case6 u rest _ _ ih =>
    obtain ⟨⟨c, a⟩, hc, he⟩ := Option.map_eq_some_iff.1 h
    simp only [Prod.mk.injEq] at he
    obtain ⟨rfl, rfl⟩ := he
    have := ih hc
    simp only [List.length_cons]
    omega

/-! ## 4. Reading an expression -/

/-- Reads a class after its opening bracket and its negation. -/
def readClass (negated : Bool) (us : List CodeUnit) : Except Problem (Atom × List CodeUnit) :=
  match classUnits us with
  | none => .error .outsideFragment
  | some (units, after) => (classRanges units).map fun ranges => (.cls negated ranges, after)

/-- Reads one atom. -/
def readAtom : List CodeUnit → Except Problem (Atom × List CodeUnit)
  | [] => .error .outsideFragment
  | u :: rest =>
    if u = point then .ok (.dot, rest)
    else if u = backslash then
      match rest with
      | [] => .error .outsideFragment
      | e :: more => if isWord e then .error .outsideFragment else .ok (.unit e, more)
    else if u = openClass then
      match rest with
      | [] => .error .outsideFragment
      | c :: more => if c = caret then readClass true more else readClass false (c :: more)
    else if isSyntax u then .error .outsideFragment
    else .ok (.unit u, rest)

theorem length_readClass {negated : Bool} {us after : List CodeUnit} {a : Atom}
    (h : readClass negated us = .ok (a, after)) : after.length < us.length := by
  unfold readClass at h
  split at h
  · simp at h
  · rename_i units after' hc
    have hlen := length_classUnits hc
    cases hr : classRanges units with
    | error e => simp [hr, Except.map] at h
    | ok rs =>
      simp only [hr, Except.map, Except.ok.injEq, Prod.mk.injEq] at h
      simpa only [← h.2] using hlen

theorem length_readAtom {us after : List CodeUnit} {a : Atom}
    (h : readAtom us = .ok (a, after)) : after.length < us.length := by
  cases us with
  | nil => simp [readAtom] at h
  | cons u rest =>
    unfold readAtom at h
    dsimp only at h
    by_cases h1 : u = point
    · simp only [h1, if_true, Except.ok.injEq, Prod.mk.injEq] at h
      simp [← h.2]
    rw [if_neg h1] at h
    by_cases h2 : u = backslash
    · rw [if_pos h2] at h
      cases rest with
      | nil => simp at h
      | cons e more =>
        by_cases hw : isWord e = true
        · simp [hw] at h
        · simp only [hw, Bool.false_eq_true, if_false, Except.ok.injEq, Prod.mk.injEq] at h
          simp only [← h.2, List.length_cons]
          omega
    rw [if_neg h2] at h
    by_cases h3 : u = openClass
    · rw [if_pos h3] at h
      cases rest with
      | nil => simp at h
      | cons c more =>
        by_cases hc : c = caret
        · simp only [hc, if_true] at h
          have := length_readClass h
          simp only [List.length_cons]
          omega
        · simp only [hc, if_false] at h
          have := length_readClass h
          simp only [List.length_cons] at this ⊢
          omega
    rw [if_neg h3] at h
    by_cases h4 : isSyntax u = true
    · simp [h4] at h
    · simp only [h4, Bool.false_eq_true, if_false, Except.ok.injEq, Prod.mk.injEq] at h
      simp [← h.2]

/-- Reads the terms up to the closing `$`. -/
def readTerms (us : List CodeUnit) : Except Problem (List Term) :=
  if us = [dollar] then .ok []
  else
    match _h : readAtom us with
    | .error e => .error e
    | .ok (a, after) =>
      match after with
      | [] => .error .outsideFragment
      | s :: more =>
        if s = asterisk then (readTerms more).map (⟨a, true⟩ :: ·)
        else (readTerms (s :: more)).map (⟨a, false⟩ :: ·)
termination_by us.length
decreasing_by
  all_goals have := length_readAtom _h; simp only [List.length_cons] at this ⊢; omega

/-- Reads an anchored expression. -/
def ofSource : List CodeUnit → Except Problem (List Term)
  | [] => .error .outsideFragment
  | u :: rest => if u = caret then readTerms rest else .error .outsideFragment

end MagnumClient.Wildcard.Regex
