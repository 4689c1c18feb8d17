/-
MagnumClient.Proofs.Wildcards — a compiled wildcard matches what the wildcard means.

A wildcard is read in two ways. `Pattern.read` gives its pieces, and `Pattern.Matches` says what
the pieces stand for. Names are tested the other way: the wildcard is written as the text of a
regular expression (`source`), and the text is read back (`Regex.ofSource`) as terms that are
tested one after the other.

A piece has one term that stands for the same (`Piece.term`), so all is said by the equation
`readTerms_rendered`: what is read back are the terms of the pieces, or it is refused since the
range of a set runs backwards. Nothing else can go wrong, and no unit takes on a meaning on its
way through the notation that it did not have in the wildcard. For a unit by itself that is a
matter of escaping it. For a set it takes three facts: where it ends (`readSet_eq`), how its
units are written (`classBody_bang`, `classBody_of_ne`) and how they are read
(`classUnits_written`).
-/
import MagnumClient.Wildcard.Source

namespace MagnumClient.Wildcard

open Text (CodeUnit)

/-! ## 1. Terms -/

/-- The least and the greatest unit of a member. -/
def Member.bounds : Member → CodeUnit × CodeUnit
  | one u => (u, u)
  | range low high => (low, high)

/-- The term that stands for what a piece does. -/
def Piece.term : Piece → Regex.Term
  | run => ⟨.dot, true⟩
  | any => ⟨.dot, false⟩
  | exact u => ⟨.unit u, false⟩
  | set negated members => ⟨.cls negated (members.map Member.bounds), false⟩

theorem Member.within_bounds (u : CodeUnit) (m : Member) :
    (decide (m.bounds.1 ≤ u) && decide (u ≤ m.bounds.2)) = m.admits u := by
  cases m with
  | range low high => rfl
  | one v =>
    rw [Bool.eq_iff_iff, Bool.and_eq_true, decide_eq_true_iff, decide_eq_true_iff]
    refine ⟨fun h => beq_iff_eq.mpr (UInt16.le_antisymm h.2 h.1), fun h => ?_⟩
    rw [beq_iff_eq.mp h]
    exact ⟨UInt16.le_refl v, UInt16.le_refl v⟩

theorem Piece.admits_term (u : CodeUnit) (piece : Piece) :
    piece.term.atom.admits u = piece.admits u := by
  cases piece with
  | set negated members =>
    simp only [term, Regex.Atom.admits, admits, List.any_map, Function.comp_def,
      Member.within_bounds]
  | _ => rfl

theorem Piece.starred_term {piece : Piece} (h : piece ≠ .run) :
    piece.term = ⟨piece.term.atom, false⟩ := by
  cases piece with
  | run => exact absurd rfl h
  | _ => rfl

/-! ## 2. Matching -/

theorem Pattern.matches_nil_iff (v : List CodeUnit) : Matches [] v ↔ v = [] := by
  constructor
  · rintro ⟨⟩
    rfl
  · rintro rfl
    exact .nil

theorem Pattern.matches_run_iff (p : Pattern) (v : List CodeUnit) :
    Matches (.run :: p) v ↔ ∃ skipped rest, v = skipped ++ rest ∧ p.Matches rest := by
  constructor
  · intro h
    cases h with
    | run skipped h => exact ⟨skipped, _, rfl, h⟩
    | unit hne _ _ => exact absurd rfl hne
  · rintro ⟨skipped, rest, rfl, h⟩
    exact .run skipped h

theorem Pattern.matches_unit_iff {piece : Piece} (hrun : piece ≠ .run) (p : Pattern)
    (v : List CodeUnit) :
    Matches (piece :: p) v ↔ ∃ u rest, v = u :: rest ∧ piece.admits u = true ∧ p.Matches rest := by
  constructor
  · intro h
    cases h with
    | run skipped h => exact absurd rfl hrun
    | unit _ hu h => exact ⟨_, _, rfl, hu, h⟩
  · rintro ⟨u, rest, rfl, hu, h⟩
    exact .unit hrun hu h

/-- The starred dot passes over any units. -/
theorem Regex.test_dotStar_iff (ts : List Regex.Term) (v : List CodeUnit) :
    Regex.test (⟨.dot, true⟩ :: ts) v = true ↔
      ∃ skipped rest, v = skipped ++ rest ∧ Regex.test ts rest = true := by
  induction v with
  | nil =>
    rw [Regex.test]
    simp [and_assoc]
  | cons u v ih =>
    rw [Regex.test]
    simp only [Regex.Atom.admits, Bool.true_and, Bool.or_eq_true, ih]
    constructor
    · rintro (h | ⟨skipped, rest, rfl, h⟩)
      · exact ⟨[], u :: v, rfl, h⟩
      · exact ⟨u :: skipped, rest, rfl, h⟩
    · rintro ⟨_ | ⟨w, skipped⟩, rest, hv, h⟩
      · exact .inl (by rwa [hv])
      · obtain ⟨rfl, rfl⟩ := List.cons.inj hv
        exact .inr ⟨skipped, rest, rfl, h⟩

/-- The terms of a pattern match what the pattern stands for. -/
theorem test_terms_iff (p : Pattern) (v : List CodeUnit) :
    Regex.test (p.map Piece.term) v = true ↔ p.Matches v := by
  induction p generalizing v with
  | nil => rw [List.map_nil, Regex.test, List.isEmpty_iff, Pattern.matches_nil_iff]
  | cons piece p ih =>
    rw [List.map_cons]
    by_cases hrun : piece = .run
    · subst hrun
      rw [Piece.term, Regex.test_dotStar_iff, Pattern.matches_run_iff]
      simp only [ih]
    · rw [Piece.starred_term hrun, Pattern.matches_unit_iff hrun]
      cases v with
      | nil => simp [Regex.test]
      | cons u v => simp [Regex.test, Piece.admits_term, ih, and_assoc]

/-! ## 3. What is in order -/

/-- What becomes of the parts of an expression, unless one runs backwards. -/
def mapInOrder {α β : Type} (inOrder : α → Bool) (f : α → β) (xs : List α) :
    Except Regex.Problem (List β) :=
  if xs.all inOrder then .ok (xs.map f) else .error .rangeOutOfOrder

/-- The parts are looked at from left to right, up to the first that runs backwards. -/
theorem mapInOrder_cons {α β : Type} (inOrder : α → Bool) (f : α → β) (x : α) (xs : List α) :
    mapInOrder inOrder f (x :: xs) =
      if inOrder x then (mapInOrder inOrder f xs).map (f x :: ·) else .error .rangeOutOfOrder := by
  unfold mapInOrder
  cases hx : inOrder x with
  | false => simp [hx]
  | true => cases hxs : xs.all inOrder <;> simp [hx, hxs, Except.map]

/-! ## 4. Sets -/

/-- How a unit of a set is written in a class. -/
def written (u : CodeUnit) : List CodeUnit :=
  if u = Regex.backslash ∨ u = closing then [Regex.backslash, u] else [u]

/-- A unit as it is read in a class. -/
def classUnit (u : CodeUnit) : Regex.ClassUnit := ⟨u, u == Regex.hyphen⟩

theorem escapeEach_cons (target u : CodeUnit) (us : List CodeUnit) :
    escapeEach target (u :: us) =
      (if u = target then [Regex.backslash, u] else [u]) ++ escapeEach target us := rfl

/-- Backslashes are doubled first, and closing brackets escaped after that. -/
theorem escapeEach_escapeEach (us : List CodeUnit) :
    escapeEach closing (escapeEach Regex.backslash us) = us.flatMap written := by
  have hclosing : Regex.backslash ≠ closing := by decide
  induction us with
  | nil => rfl
  | cons u us ih =>
    rw [escapeEach_cons, List.flatMap_cons, ← ih, written]
    by_cases hb : u = Regex.backslash
    · simp [hb, escapeEach_cons, hclosing]
    · by_cases hc : u = closing <;> simp [hb, hc, escapeEach_cons, Ne.symm hclosing]

namespace Regex

theorem classUnits_close (rest : List CodeUnit) :
    classUnits (closeClass :: rest) = some ([], rest) := by
  cases rest <;> rfl

theorem classUnits_escaped {e : CodeUnit} (h : isWord e = false) (rest : List CodeUnit) :
    classUnits (backslash :: e :: rest) =
      (classUnits rest).map fun (us, after) => (⟨e, false⟩ :: us, after) := by
  have hclose : backslash ≠ closeClass := by decide
  rw [classUnits, if_neg hclose, if_pos rfl, if_neg (by simp [h])]

theorem classUnits_plain {u : CodeUnit} (hclose : u ≠ closeClass) (hslash : u ≠ backslash)
    (rest : List CodeUnit) :
    classUnits (u :: rest) =
      (classUnits rest).map fun (us, after) => (classUnit u :: us, after) := by
  cases rest with
  | nil =>
    rw [classUnits.eq_def]
    simp only [if_neg hclose, if_neg hslash]
    rfl
  | cons e more =>
    rw [classUnits, if_neg hclose, if_neg hslash]
    rfl

/-- What is written in a class is read as it was. -/
theorem classUnits_written (us after : List CodeUnit) :
    classUnits (us.flatMap written ++ closeClass :: after) = some (us.map classUnit, after) := by
  induction us with
  | nil => exact classUnits_close after
  | cons u us ih =>
    rw [List.flatMap_cons, List.append_assoc, written]
    split
    · rename_i hu
      have hword : isWord u = false := by rcases hu with rfl | rfl <;> decide
      have hdash : (u == hyphen) = false := by rcases hu with rfl | rfl <;> decide
      simp only [List.cons_append, List.nil_append]
      rw [classUnits_escaped hword, ih]
      simp [classUnit, hdash]
    · rename_i hu
      obtain ⟨hb, hc⟩ := not_or.mp hu
      simp only [List.cons_append, List.nil_append]
      rw [classUnits_plain hc hb, ih]
      simp

theorem classRanges_cons_of_not {a d : ClassUnit} (h : d.isDash = false) (rest : List ClassUnit) :
    classRanges (a :: d :: rest) =
      (classRanges (d :: rest)).map ((a.unit, a.unit) :: ·) := by
  cases rest with
  | nil => rw [classRanges]; simp
  | cons b more => rw [classRanges, if_neg (by simp [h])]

/-- The ranges of a class are the bounds of the members of the set. -/
theorem classRanges_eq (us : List CodeUnit) :
    classRanges (us.map classUnit) =
      mapInOrder Member.inOrder Member.bounds (Member.read us) := by
  fun_induction Member.read us with
  | case1 x y more ih =>
    have hdash : (classUnit dash).isDash = true := by decide
    rw [List.map_cons, List.map_cons, List.map_cons, classRanges, if_pos hdash, ih,
      mapInOrder_cons]
    by_cases hxy : x ≤ y <;> simp [classUnit, Member.inOrder, Member.bounds, hxy]
  | case2 x d y more hd ih =>
    have hdash : (classUnit d).isDash = false := beq_eq_false_iff_ne.mpr hd
    rw [List.map_cons, List.map_cons, classRanges_cons_of_not hdash, ← List.map_cons, ih,
      mapInOrder_cons]
    simp [classUnit, Member.inOrder, Member.bounds]
  | case3 x rest hshort ih =>
    rw [List.map_cons, classRanges, ih, mapInOrder_cons]
    · simp [classUnit, Member.inOrder, Member.bounds]
    · intro d b more hrest
      obtain ⟨d', rest', rfl, -, hrest'⟩ := List.map_eq_cons_iff.mp hrest
      obtain ⟨b', more', rfl, -, -⟩ := List.map_eq_cons_iff.mp hrest'
      exact hshort d' b' more' rfl
  | case4 => rfl

end Regex

/-- The piece that the body of a set stands for. -/
def Piece.ofBody (body : List CodeUnit) : Piece :=
  match body with
  | [] => set false []
  | u :: rest =>
    if u = bang then set true (Member.read rest) else set false (Member.read (u :: rest))

theorem Piece.ofBody_ne_run (body : List CodeUnit) : ofBody body ≠ .run := by
  intro h
  cases body with
  | nil => cases h
  | cons u rest =>
    rw [ofBody] at h
    split at h <;> cases h

theorem untilClosing_eq (us : List CodeUnit) :
    untilClosing us =
      match us.dropWhile (· ≠ closing) with
      | [] => none
      | _ :: after => some (us.takeWhile (· ≠ closing), after) := by
  induction us with
  | nil => rfl
  | cons u us ih =>
    rw [untilClosing, ih]
    by_cases hu : u = closing
    · simp [hu]
    · rw [if_neg hu, List.dropWhile_cons_of_pos (by simpa using hu),
        List.takeWhile_cons_of_pos (by simpa using hu)]
      split <;> rfl

theorem closedSet?_eq (rest : List CodeUnit) :
    closedSet? rest =
      (untilClosing (rest.drop (lead rest))).map fun s => (rest.take (lead rest) ++ s.1, s.2) := by
  rw [untilClosing_eq, closedSet?]
  cases (rest.drop (lead rest)).dropWhile (· ≠ closing) <;> rfl

theorem setBody_of_ne {u : CodeUnit} (h : u ≠ closing) (rest : List CodeUnit) :
    setBody (u :: rest) = untilClosing (u :: rest) := by
  rw [setBody, untilClosing, if_neg h]

/-- Where a set ends: its first unit is passed over, whatever it is. -/
theorem closedSet?_cons (u : CodeUnit) (rest : List CodeUnit) :
    closedSet? (u :: rest) =
      if u = bang then (setBody rest).map fun s => (bang :: s.1, s.2) else setBody (u :: rest) := by
  rw [closedSet?_eq]
  by_cases hu : u = bang
  · subst hu
    rw [if_pos rfl]
    cases rest with
    | nil => rfl
    | cons v more =>
      by_cases hv : v = closing
      · subst hv
        simp [lead, setBody, Function.comp_def]
      · simp [lead, hv, setBody_of_ne]
  · rw [if_neg hu]
    by_cases hc : u = closing
    · have hne : closing ≠ bang := by decide
      have hlead : lead (u :: rest) = 1 := by cases rest <;> simp [lead, hc, hne]
      simp [hlead, setBody]
    · have hlead : lead (u :: rest) = 0 := by cases rest <;> simp [lead, hu, hc]
      simp [hlead, setBody_of_ne hc]

/-- Both readings of a set end it at the same place. -/
theorem readSet_eq (rest : List CodeUnit) :
    Piece.readSet rest = (closedSet? rest).map fun s => (Piece.ofBody s.1, s.2) := by
  cases rest with
  | nil => rfl
  | cons u rest =>
    rw [Piece.readSet, closedSet?_cons]
    by_cases hu : u = bang
    · simp [hu, Function.comp_def, Piece.ofBody]
    · rw [if_neg hu, if_neg hu, setBody, Option.map_map, Option.map_map]
      simp [Function.comp_def, Piece.ofBody, hu]

/-- A set that starts with `!` becomes a negated class of the units behind it. -/
theorem classBody_bang (us : List CodeUnit) :
    classBody (bang :: us) = Regex.caret :: us.flatMap written := by
  have hb : bang ≠ Regex.backslash := by decide
  have hc : Regex.caret ≠ closing := by decide
  rw [classBody, escapeEach_cons, if_neg hb, List.singleton_append]
  simp only [if_true]
  rw [escapeEach_cons, if_neg hc, escapeEach_escapeEach, List.singleton_append]

/-- A unit that could be taken for something else at the start of a class is escaped. -/
theorem classBody_of_ne {u : CodeUnit} (hu : u ≠ bang) (us : List CodeUnit) :
    classBody (u :: us) =
      (if u = Regex.caret ∨ u = opening then [Regex.backslash, u] else written u) ++
        us.flatMap written := by
  have hcaret : ∀ v, v = Regex.caret ∨ v = opening → v ≠ Regex.backslash ∧ v ≠ closing := by
    rintro v (rfl | rfl) <;> decide
  have hclosing : Regex.backslash ≠ closing := by decide
  by_cases hfirst : u = Regex.caret ∨ u = opening
  · obtain ⟨hb, hc⟩ := hcaret u hfirst
    rw [classBody, escapeEach_cons, if_neg hb, List.singleton_append]
    simp only [if_neg hu, if_pos hfirst]
    rw [escapeEach_cons, escapeEach_cons, if_neg hclosing, if_neg hc, escapeEach_escapeEach]
    rfl
  · rw [if_neg hfirst, ← List.flatMap_cons, ← escapeEach_escapeEach, classBody]
    by_cases hb : u = Regex.backslash
    · subst hb
      rfl
    · rw [escapeEach_cons, if_neg hb, List.singleton_append]
      simp only [if_neg hu, if_neg hfirst]

namespace Regex

/-- What follows the opening bracket of a class: it is negated by a `^`. -/
theorem readAtom_class (c : CodeUnit) (more : List CodeUnit) :
    readAtom (openClass :: c :: more) =
      if c = caret then readClass true more else readClass false (c :: more) := by
  have hpoint : openClass ≠ point := by decide
  have hslash : openClass ≠ backslash := by decide
  rw [readAtom, if_neg hpoint, if_neg hslash, if_pos rfl]

/-- A class whose units are those of a set is the class of that set. -/
theorem readClass_of_units {negated : Bool} {us body tail : List CodeUnit}
    (h : classUnits body = some (us.map classUnit, tail)) :
    readClass negated body =
      if (Piece.set negated (Member.read us)).inOrder then
        .ok ((Piece.set negated (Member.read us)).term.atom, tail)
      else .error .rangeOutOfOrder := by
  have hset : (Piece.set negated (Member.read us)).inOrder =
      (Member.read us).all Member.inOrder := rfl
  rw [readClass, h]
  simp only [classRanges_eq, mapInOrder]
  by_cases horder : (Member.read us).all Member.inOrder = true
  · rw [hset, if_pos horder, if_pos horder]
    rfl
  · rw [hset, if_neg horder, if_neg horder]
    rfl

/-- The first unit of a class that is not negated is read as it was, too. -/
theorem classUnits_classBody {u : CodeUnit} (hu : u ≠ bang) (us tail : List CodeUnit) :
    classUnits (classBody (u :: us) ++ closeClass :: tail) =
      some ((u :: us).map classUnit, tail) := by
  rw [classBody_of_ne hu]
  split
  · rename_i hfirst
    have hword : isWord u = false := by rcases hfirst with rfl | rfl <;> decide
    have hdash : (u == hyphen) = false := by rcases hfirst with rfl | rfl <;> decide
    simp only [List.cons_append, List.nil_append]
    rw [classUnits_escaped hword, classUnits_written]
    simp [classUnit, hdash]
  · rw [← List.flatMap_cons, classUnits_written]

theorem head_classBody_of_ne {u : CodeUnit} (hu : u ≠ bang) (us : List CodeUnit) :
    ∃ c more, classBody (u :: us) = c :: more ∧ c ≠ caret := by
  have hslash : backslash ≠ caret := by decide
  rw [classBody_of_ne hu]
  split
  · exact ⟨backslash, _, rfl, hslash⟩
  · rename_i hfirst
    rw [written]
    split
    · exact ⟨backslash, _, rfl, hslash⟩
    · exact ⟨u, _, rfl, fun h => hfirst (.inl h)⟩

/-- What is written of a set is read as the class of its piece. -/
theorem readAtom_classBody (body tail : List CodeUnit) :
    readAtom (openClass :: (classBody body ++ closeClass :: tail)) =
      if (Piece.ofBody body).inOrder then .ok ((Piece.ofBody body).term.atom, tail)
      else .error .rangeOutOfOrder := by
  have hclose : closeClass ≠ caret := by decide
  cases body with
  | nil =>
    have hunits : classUnits (closeClass :: tail) =
        some (([] : List CodeUnit).map classUnit, tail) := classUnits_close tail
    exact (readAtom_class closeClass tail).trans ((if_neg hclose).trans (readClass_of_units hunits))
  | cons u us =>
    by_cases hu : u = bang
    · subst hu
      rw [classBody_bang, List.cons_append, readAtom_class, if_pos rfl,
        readClass_of_units (classUnits_written us tail), Piece.ofBody, if_pos rfl]
    · have hunits := classUnits_classBody hu us tail
      obtain ⟨c, more, hbody, hc⟩ := head_classBody_of_ne hu us
      rw [hbody, List.cons_append] at hunits ⊢
      rw [readAtom_class, if_neg hc, readClass_of_units hunits, Piece.ofBody, if_neg hu]

end Regex

/-! ## 5. Whole patterns -/

/-- The text of a wildcard up to its closing anchor. -/
def rendered (us : List CodeUnit) : List CodeUnit := source us ++ [Regex.dollar]

/-- What a pattern is compiled to. -/
def compiled (p : Pattern) : Except Regex.Problem (List Regex.Term) :=
  mapInOrder Piece.inOrder Piece.term p

theorem compiled_cons (piece : Piece) (p : Pattern) :
    compiled (piece :: p) =
      if piece.inOrder then (compiled p).map (piece.term :: ·) else .error .rangeOutOfOrder :=
  mapInOrder_cons ..

theorem compiled_cons_of_inOrder {piece : Piece} (h : piece.inOrder = true) (p : Pattern) :
    compiled (piece :: p) = (compiled p).map (piece.term :: ·) := by
  rw [compiled_cons, if_pos h]

/-- No text of a wildcard starts with an asterisk, so none can be taken for the star of the
term before it. -/
theorem rendered_head (us : List CodeUnit) :
    ∃ c more, rendered us = c :: more ∧ c ≠ Regex.asterisk := by
  have hdollar : Regex.dollar ≠ Regex.asterisk := by decide
  have hpoint : Regex.point ≠ Regex.asterisk := by decide
  have hslash : Regex.backslash ≠ Regex.asterisk := by decide
  have hclass : Regex.openClass ≠ Regex.asterisk := by decide
  unfold rendered
  cases us with
  | nil => exact ⟨Regex.dollar, [], by rw [source]; rfl, hdollar⟩
  | cons u us =>
    rw [source]
    split
    · exact ⟨_, _, rfl, hpoint⟩
    · split
      · exact ⟨_, _, rfl, hpoint⟩
      · split
        · split
          · exact ⟨_, _, rfl, hslash⟩
          · exact ⟨_, _, rfl, hclass⟩
        · split
          · exact ⟨_, _, rfl, hslash⟩
          · rename_i hstar _ _ _
            exact ⟨_, _, rfl, hstar⟩

namespace Regex

theorem readAtom_dollar : readAtom [dollar] = .error .outsideFragment := rfl

theorem readAtom_point (rest : List CodeUnit) : readAtom (point :: rest) = .ok (.dot, rest) := by
  cases rest <;> rfl

theorem readAtom_escaped {e : CodeUnit} (h : isWord e = false) (rest : List CodeUnit) :
    readAtom (backslash :: e :: rest) = .ok (.unit e, rest) := by
  have hpoint : backslash ≠ point := by decide
  rw [readAtom, if_neg hpoint, if_pos rfl, if_neg (by simp [h])]

theorem readAtom_plain {u : CodeUnit} (h : isSyntax u = false) (rest : List CodeUnit) :
    readAtom (u :: rest) = .ok (.unit u, rest) := by
  have hne : ∀ v, isSyntax v = true → u ≠ v := by
    rintro v hv rfl
    rw [h] at hv
    cases hv
  have hpoint := hne point (by decide)
  have hslash := hne backslash (by decide)
  have hclass := hne openClass (by decide)
  cases rest <;> rw [readAtom] <;> simp [hpoint, hslash, hclass, h]

/-- A unit that is special is written with a backslash before it, and is no letter. -/
theorem readAtom_special {u : CodeUnit} (h : isSpecial u = true) (rest : List CodeUnit) :
    readAtom (backslash :: u :: rest) = .ok (.unit u, rest) := by
  refine readAtom_escaped ?_ rest
  simp only [isSpecial, isSyntax, Bool.or_eq_true, List.contains_iff_mem, beq_iff_eq] at h
  rcases h with h | rfl
  · simp only [List.mem_cons, List.not_mem_nil, or_false] at h
    rcases h with rfl | rfl | rfl | rfl | rfl | rfl | rfl | rfl | rfl | rfl | rfl | rfl | rfl | rfl
      <;> decide
  · decide

theorem readTerms_step {text more : List CodeUnit} {a : Atom} {c : CodeUnit}
    (h : readAtom text = .ok (a, c :: more)) :
    readTerms text =
      if c = asterisk then (readTerms more).map (⟨a, true⟩ :: ·)
      else (readTerms (c :: more)).map (⟨a, false⟩ :: ·) := by
  have htext : text ≠ [dollar] := by
    rintro rfl
    rw [readAtom_dollar] at h
    cases h
  rw [readTerms, if_neg htext]
  split
  · rename_i h'
    rw [h] at h'
    cases h'
  · rename_i h'
    rw [h] at h'
    cases h'
    rfl

/-- An atom with the text of a wildcard behind it is not starred. -/
theorem readTerms_atom {text us : List CodeUnit} {a : Atom}
    (h : readAtom text = .ok (a, rendered us)) :
    readTerms text = (readTerms (rendered us)).map (⟨a, false⟩ :: ·) := by
  obtain ⟨c, more, hhead, hc⟩ := rendered_head us
  rw [hhead] at h ⊢
  rw [readTerms_step h, if_neg hc]

theorem readTerms_problem {text : List CodeUnit} {e : Problem} (htext : text ≠ [dollar])
    (h : readAtom text = .error e) : readTerms text = .error e := by
  rw [readTerms, if_neg htext]
  split
  · rename_i h'
    rw [h] at h'
    cases h'
    rfl
  · rename_i h'
    rw [h] at h'
    cases h'

/-- A class has one term, unless one of its ranges runs backwards. -/
theorem readTerms_class (body us : List CodeUnit) :
    readTerms (openClass :: (classBody body ++ closeClass :: rendered us)) =
      if (Piece.ofBody body).inOrder then
        (readTerms (rendered us)).map ((Piece.ofBody body).term :: ·)
      else .error .rangeOutOfOrder := by
  have hatom := readAtom_classBody body (rendered us)
  split at hatom
  · rename_i horder
    rw [readTerms_atom hatom, if_pos horder, ← Piece.starred_term (Piece.ofBody_ne_run body)]
  · rename_i horder
    rw [readTerms_problem (by simp) hatom, if_neg horder]

end Regex

theorem rendered_unclosed {rest : List CodeUnit} (h : closedSet? rest = none) :
    rendered (opening :: rest) = Regex.backslash :: opening :: rendered rest := by
  have hstar : opening ≠ star := by decide
  have hquestion : opening ≠ question := by decide
  rw [rendered, source, if_neg hstar, if_neg hquestion, if_pos rfl]
  split
  · rfl
  · rename_i h'
    rw [h] at h'
    cases h'

theorem rendered_set {rest body after : List CodeUnit} (h : closedSet? rest = some (body, after)) :
    rendered (opening :: rest) =
      Regex.openClass :: (classBody body ++ Regex.closeClass :: rendered after) := by
  have hstar : opening ≠ star := by decide
  have hquestion : opening ≠ question := by decide
  rw [rendered, source, if_neg hstar, if_neg hquestion, if_pos rfl]
  split
  · rename_i h'
    rw [h] at h'
    cases h'
  · rename_i h'
    rw [h] at h'
    cases h'
    simp [rendered]

/-- The text of a wildcard is read back as the terms of its pieces. -/
theorem readTerms_rendered (us : List CodeUnit) :
    Regex.readTerms (rendered us) = compiled (Pattern.read us) := by
  fun_induction Pattern.read us with
  | case1 =>
    rw [rendered, source, List.nil_append, Regex.readTerms, if_pos rfl]
    rfl
  | case2 rest ih =>
    have hatom := Regex.readAtom_point (Regex.asterisk :: rendered rest)
    rw [rendered, source, if_pos rfl, List.cons_append, List.cons_append, ← rendered,
      Regex.readTerms_step hatom, if_pos rfl, ih, compiled_cons_of_inOrder rfl]
    rfl
  | case3 rest hstar ih =>
    rw [rendered, source, if_neg hstar, if_pos rfl, List.cons_append, ← rendered,
      Regex.readTerms_atom (Regex.readAtom_point _), ih, compiled_cons_of_inOrder rfl]
    rfl
  | case4 rest piece after hset _ _ ih =>
    rw [readSet_eq] at hset
    obtain ⟨⟨body, tail⟩, hclosed, hbody⟩ := Option.map_eq_some_iff.mp hset
    obtain ⟨rfl, rfl⟩ := Prod.mk.inj hbody
    rw [rendered_set hclosed, Regex.readTerms_class, ih, compiled_cons]
  | case5 rest hset _ _ ih =>
    rw [readSet_eq] at hset
    have hspecial : isSpecial opening = true := by decide
    rw [rendered_unclosed (Option.map_eq_none_iff.mp hset),
      Regex.readTerms_atom (Regex.readAtom_special hspecial _), ih, compiled_cons_of_inOrder rfl]
    rfl
  | case6 u rest hstar hquestion hopening ih =>
    rw [rendered, source, if_neg hstar, if_neg hquestion, if_neg hopening,
      compiled_cons_of_inOrder rfl, ← ih]
    split
    · rename_i hspecial
      rw [List.cons_append, List.cons_append, ← rendered,
        Regex.readTerms_atom (Regex.readAtom_special hspecial _)]
      rfl
    · rename_i hspecial
      have hsyntax : Regex.isSyntax u = false := by
        cases h : Regex.isSyntax u with
        | false => rfl
        | true => exact absurd (by rw [isSpecial, h]; rfl) hspecial
      rw [List.cons_append, ← rendered, Regex.readTerms_atom (Regex.readAtom_plain hsyntax _)]
      rfl

/-- A wildcard is compiled to the terms of its pieces. -/
theorem ofSource_anchored (us : List CodeUnit) :
    Regex.ofSource (anchored us) = compiled (Pattern.read us) :=
  readTerms_rendered us

theorem Pattern.inOrder_iff (p : Pattern) : p.InOrder ↔ p.all Piece.inOrder = true :=
  List.all_eq_true.symm

theorem compiled_of_inOrder {p : Pattern} (h : p.InOrder) : compiled p = .ok (p.map Piece.term) :=
  if_pos (p.inOrder_iff.mp h)

theorem compiled_of_not_inOrder {p : Pattern} (h : ¬ p.InOrder) :
    compiled p = .error .rangeOutOfOrder :=
  if_neg (mt p.inOrder_iff.mpr h)

/-! ## 6. What wildcards match -/

/-- A wildcard that is in order stands for a text. -/
def Meant (wildcard text : String) : Prop :=
  (Pattern.read (Text.units wildcard)).InOrder ∧
    (Pattern.read (Text.units wildcard)).Matches (Text.units text)

theorem matcher?_of_inOrder {wildcard : String}
    (h : (Pattern.read (Text.units wildcard)).InOrder) :
    matcher? wildcard = some ⟨(Pattern.read (Text.units wildcard)).map Piece.term⟩ := by
  rw [matcher?, ofSource_anchored, compiled_of_inOrder h]

theorem matcher?_of_not_inOrder {wildcard : String}
    (h : ¬ (Pattern.read (Text.units wildcard)).InOrder) : matcher? wildcard = none := by
  rw [matcher?, ofSource_anchored, compiled_of_not_inOrder h]

/-- A text passes the test of a wildcard iff the wildcard stands for it. -/
theorem exists_test_iff (wildcard text : String) :
    (∃ m, matcher? wildcard = some m ∧ m.test text = true) ↔ Meant wildcard text := by
  by_cases h : (Pattern.read (Text.units wildcard)).InOrder
  · simp [matcher?_of_inOrder h, Meant, h, Matcher.test, test_terms_iff]
  · simp [matcher?_of_not_inOrder h, Meant, h]

/-- **A wildcard is compiled to what it means.** It is refused iff a range of one of its sets
runs backwards, and for no other reason; otherwise what it is compiled to tests true on the
values that its pieces stand for, and on no others. -/
theorem compiled_means_pattern (us : List CodeUnit) :
    (∀ e, Regex.ofSource (anchored us) = .error e ↔
      ¬ (Pattern.read us).InOrder ∧ e = .rangeOutOfOrder) ∧
    (∀ terms, Regex.ofSource (anchored us) = .ok terms → ∀ value,
      Regex.test terms value = true ↔ (Pattern.read us).Matches value) ∧
    ∀ wildcard, Text.units wildcard = us →
      (matcher? wildcard = none ↔ ¬ (Pattern.read us).InOrder) ∧
      ∀ m, matcher? wildcard = some m → ∀ value,
        m.test value = true ↔ (Pattern.read us).Matches (Text.units value) := by
  by_cases h : (Pattern.read us).InOrder
  · have hcompiled := (ofSource_anchored us).trans (compiled_of_inOrder h)
    refine ⟨fun e => by simp [hcompiled, h], ?_, ?_⟩
    · intro terms hterms value
      obtain rfl := Except.ok.inj (hcompiled.symm.trans hterms)
      exact test_terms_iff _ value
    · rintro wildcard rfl
      have hmatcher := matcher?_of_inOrder h
      refine ⟨by simp [hmatcher, h], fun m hm value => ?_⟩
      obtain rfl := Option.some.inj (hmatcher.symm.trans hm)
      exact test_terms_iff _ (Text.units value)
  · have hrefused := (ofSource_anchored us).trans (compiled_of_not_inOrder h)
    refine ⟨fun e => by simp [hrefused, h, eq_comm], ?_, ?_⟩
    · intro terms hterms
      rw [hrefused] at hterms
      cases hterms
    · rintro wildcard rfl
      have hmatcher := matcher?_of_not_inOrder h
      refine ⟨by simp [hmatcher, h], fun m hm => ?_⟩
      rw [hmatcher] at hm
      cases hm

/-- A range that starts at a leading `]`, a negated set with a caret and a backslash, a run
over a line end, and a bracket that is not closed. -/
theorem compiled_brackets :
    let wildcard := "[]-a][!^\\]*.["
    ∃ m, matcher? wildcard = some m ∧ m.test "^x\ny.[" = true ∧
      (Pattern.read (Text.units wildcard)).Matches (Text.units "^x\ny.[") := by
  intro wildcard
  obtain ⟨m, hm, hterms⟩ : ∃ m, matcher? wildcard = some m ∧
      m.terms = [⟨.cls false [(93, 97)], false⟩, ⟨.cls true [(94, 94), (92, 92)], false⟩,
        ⟨.dot, true⟩, ⟨.unit 46, false⟩, ⟨.unit 91, false⟩] :=
    Option.map_eq_some_iff.mp (by decide +kernel)
  have hunits : Text.units "^x\ny.[" = [94, 120, 10, 121, 46, 91] := by decide
  have htest : m.test "^x\ny.[" = true := by
    simp [Matcher.test, hterms, hunits, Regex.test, Regex.Atom.admits]
  exact ⟨m, hm, htest,
    (((compiled_means_pattern (Text.units wildcard)).2.2 wildcard rfl).2 m hm _).mp htest⟩

end MagnumClient.Wildcard
