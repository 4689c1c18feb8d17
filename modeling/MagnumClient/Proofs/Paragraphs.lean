/-
MagnumClient.Proofs.Paragraphs — an RC file with the line ends of another system, and how it
falls apart.

The lines of an RC file may end in a line feed, or in a carriage return and a line feed
(`crlf`). A line is trimmed before it is read, so the carriage return at its end is no harm by
itself (`filterMap_lines_withReturns`). What it does harm is the dropping of the `export`s: an
`export` goes together with the blanks before it, and a line starts behind a carriage return
as well, so the line feed is such a blank. The carriage return is left, which does not end a
line, and what was exported is read as more of the line above it.

`runOn` drops the exports of a file as they are dropped from its lines with carriage returns,
and marks these places with a carriage return. One text, two readings:
`dropExports_withReturns` says that it is what the file with carriage returns is read from, and
`dropExports_eq_map` that it is what the file itself is read from once the marks are line ends
again. So both files fall into the same `paragraphs`, a line and the exported lines that run on
from it; the file reads them line by line, and with carriage returns each is read as one line
(`runTogether`).
-/
import Mathlib.Data.List.TakeWhile
import MagnumClient.Proofs.ExportFiles

namespace MagnumClient

/-! ## 1. Trimming around a character that stays -/

namespace Text

theorem head?_dropWhile (cs : List Char) :
    ∀ c ∈ (cs.dropWhile isBlank).head?, isBlank c = false := fun c hc => by
  have := List.head?_dropWhile_not isBlank cs
  rw [Option.mem_def.mp hc] at this
  simpa using this

theorem trimEndChars_append_cons {c : Char} (h : isBlank c = false) (before rest : List Char) :
    trimEndChars (before ++ c :: rest) = before ++ c :: trimEndChars rest := by
  simp [trimEndChars, dropWhile_append_cons h]

theorem trimChars_append_cons {c : Char} (h : isBlank c = false) (before rest : List Char) :
    trimChars (before ++ c :: rest) = before.dropWhile isBlank ++ c :: trimEndChars rest := by
  rw [trimChars, dropWhile_append_cons h, trimEndChars_append_cons h]

theorem mem_of_mem_trimChars {c : Char} {cs : List Char} (h : c ∈ trimChars cs) : c ∈ cs := by
  refine (List.dropWhile_suffix isBlank).mem (List.mem_reverse.mp ?_)
  exact (List.dropWhile_suffix isBlank).mem (List.mem_reverse.mp h)

/-- A blank at the end does not outlive trimming. -/
theorem trimChars_concat {c : Char} (h : isBlank c = true) (cs : List Char) :
    trimChars (cs ++ [c]) = trimChars cs := by
  by_cases hcs : cs.all isBlank = true
  · rw [trimChars_of_all hcs, trimChars_of_all (by simp_all)]
  · obtain ⟨x, hx, hxblank⟩ : ∃ x ∈ cs, isBlank x = false := by simpa using hcs
    obtain ⟨before, rest, rfl⟩ := List.append_of_mem hx
    rw [List.append_assoc, List.cons_append, trimChars_append_cons hxblank,
      trimChars_append_cons hxblank]
    simp [trimEndChars, h]

/-- What stands between two characters that are not blank is not trimmed. -/
theorem mem_trimChars_between {c : Char} {cs ds : List Char} (hcs : ∃ x ∈ cs, isBlank x = false)
    (hds : ∃ x ∈ ds, isBlank x = false) : c ∈ trimChars (cs ++ c :: ds) := by
  obtain ⟨x, hx, hxblank⟩ := hcs
  obtain ⟨y, hy, hyblank⟩ := hds
  obtain ⟨before, rest, rfl⟩ := List.append_of_mem hx
  obtain ⟨before', rest', rfl⟩ := List.append_of_mem hy
  have htail : rest ++ c :: (before' ++ y :: rest') = (rest ++ c :: before') ++ y :: rest' := by
    simp
  rw [List.append_assoc, List.cons_append, trimChars_append_cons hxblank, htail,
    trimEndChars_append_cons hyblank]
  simp

theorem trimChars_ne_nil {cs : List Char} (h : ∃ x ∈ cs, isBlank x = false) :
    trimChars cs ≠ [] := by
  obtain ⟨x, hx, hxblank⟩ := h
  obtain ⟨before, rest, rfl⟩ := List.append_of_mem hx
  rw [trimChars_append_cons hxblank]
  simp

end Text

namespace Config

namespace RcFile

open Text (isBlank isLineEnd)

/-! ## 2. Carriage returns -/

/-- A text with a carriage return before every line feed. -/
def withReturns (cs : List Char) : List Char :=
  cs.flatMap fun c => if c = '\n' then ['\r', '\n'] else [c]

/-- A file with carriage returns before its line feeds. -/
def crlf (text : String) : String := String.ofList (withReturns text.toList)

@[simp] theorem withReturns_nil : withReturns [] = [] := rfl

@[simp] theorem withReturns_newline (cs : List Char) :
    withReturns ('\n' :: cs) = '\r' :: '\n' :: withReturns cs := rfl

theorem withReturns_cons {c : Char} (h : c ≠ '\n') (cs : List Char) :
    withReturns (c :: cs) = c :: withReturns cs := by
  simp [withReturns, h]

theorem dropWhile_withReturns (cs : List Char) :
    (withReturns cs).dropWhile isBlank = withReturns (cs.dropWhile isBlank) := by
  induction cs with
  | nil => rfl
  | cons c cs ih =>
    by_cases hc : c = '\n'
    · subst hc
      simp [ih, show isBlank '\r' = true by decide, show isBlank '\n' = true by decide]
    · by_cases hblank : isBlank c = true <;> simp [withReturns_cons hc, hblank, ih]

theorem takeWhile_withReturns (cs : List Char) :
    (withReturns cs).takeWhile isBlank = withReturns (cs.takeWhile isBlank) := by
  induction cs with
  | nil => rfl
  | cons c cs ih =>
    by_cases hc : c = '\n'
    · subst hc
      simp [ih, show isBlank '\r' = true by decide, show isBlank '\n' = true by decide]
    · by_cases hblank : isBlank c = true <;> simp [withReturns_cons hc, hblank, ih]

theorem getLast?_withReturns (cs : List Char) : (withReturns cs).getLast? = cs.getLast? := by
  rcases cs.eq_nil_or_concat with rfl | ⟨before, c, rfl⟩
  · rfl
  · by_cases hc : c = '\n' <;> simp [withReturns, hc]

/-- A word is not torn apart by carriage returns. -/
theorem after?_withReturns {word : List Char} (h : ∀ c ∈ word, isLineEnd c = false)
    (cs : List Char) : after? word (withReturns cs) = (after? word cs).map withReturns := by
  induction word generalizing cs with
  | nil => rfl
  | cons p word ih =>
    have hp : isLineEnd p = false := h p List.mem_cons_self
    have hreturn : p ≠ '\r' := by rintro rfl; cases hp
    have hfeed : p ≠ '\n' := by rintro rfl; cases hp
    cases cs with
    | nil => rfl
    | cons c cs =>
      by_cases hc : c = '\n'
      · subst hc
        simp [after?, hreturn, hfeed]
      · rw [withReturns_cons hc, after?, after?, ih fun d hd => h d (List.mem_cons_of_mem _ hd)]
        split <;> rfl

/-- An `export` stands where it stood. -/
theorem afterExport?_withReturns (cs : List Char) :
    afterExport? (withReturns cs) = (afterExport? cs).map fun p => (withReturns p.1, p.2) := by
  have hword : ∀ c ∈ exportWord, isLineEnd c = false := by simp [exportWord, isLineEnd]
  rw [afterExport?, afterExport?, dropWhile_withReturns, after?_withReturns hword]
  cases after? exportWord (cs.dropWhile isBlank) with
  | none => rfl
  | some rest =>
    simp only [Option.map_some, Option.bind_eq_bind, Option.bind_some, takeWhile_withReturns,
      getLast?_withReturns, dropWhile_withReturns]
    cases (rest.takeWhile isBlank).getLast? <;> rfl

/-- A blank before an `export` goes with it. -/
theorem afterExport?_cons {c : Char} (h : isBlank c = true) (cs : List Char) :
    afterExport? (c :: cs) = afterExport? cs := by
  simp [afterExport?, h]

/-! ## 3. Lines that run on -/

/-- A text whose exports are dropped, `fresh` if it starts a line. A line end that an `export`
follows is a carriage return here: with carriage returns before the line ends, the line feed
would be dropped with the `export`. -/
def runOn (fresh : Bool) (cs : List Char) : List Char :=
  match cs with
  | [] => []
  | c :: rest =>
    match _h : (if fresh then afterExport? (c :: rest) else none) with
    | some (tail, next) => runOn next tail
    | none =>
      (if c = '\n' ∧ (afterExport? rest).isSome then '\r' else c) :: runOn (isLineEnd c) rest
termination_by cs.length
decreasing_by
  · split at _h
    · exact length_afterExport _h
    · simp at _h
  · simp

theorem dropped_iff {fresh : Bool} {cs : List Char} {p : List Char × Bool} :
    (if fresh then afterExport? cs else none) = some p ↔
      fresh = true ∧ afterExport? cs = some p := by
  cases fresh <;> simp

theorem runOn_of_kept {fresh : Bool} {c : Char} {rest : List Char}
    (h : (if fresh then afterExport? (c :: rest) else none) = none) :
    runOn fresh (c :: rest) =
      (if c = '\n' ∧ (afterExport? rest).isSome then '\r' else c) :: runOn (isLineEnd c) rest := by
  rw [runOn]
  split
  · rename_i hsome
    rw [h] at hsome
    cases hsome
  · rfl

theorem runOn_of_afterExport {cs tail : List Char} {next : Bool}
    (h : afterExport? cs = some (tail, next)) : runOn true cs = runOn next tail := by
  cases cs with
  | nil => cases h
  | cons c rest =>
    rw [runOn]
    split <;> simp_all

theorem dropExports_of_kept {fresh : Bool} {c : Char} {rest : List Char}
    (h : (if fresh then afterExport? (c :: rest) else none) = none) :
    dropExports fresh (c :: rest) = c :: dropExports (isLineEnd c) rest := by
  rw [dropExports]
  split
  · rename_i hsome
    rw [h] at hsome
    cases hsome
  · rfl

theorem dropExports_of_dropped {fresh next : Bool} {cs tail : List Char}
    (h : (if fresh then afterExport? cs else none) = some (tail, next)) :
    dropExports fresh cs = dropExports next tail := by
  obtain ⟨rfl, hafter⟩ := dropped_iff.mp h
  exact dropExports_of_afterExport hafter

/-- **What is left of a file with carriage returns.** -/
theorem dropExports_withReturns (fresh : Bool) (cs : List Char) :
    dropExports fresh (withReturns cs) = withReturns (runOn fresh cs) := by
  fun_induction runOn fresh cs with
  | case1 fresh => exact dropExports_nil fresh
  | case2 fresh c rest tail next h ih =>
    obtain ⟨rfl, hafter⟩ := dropped_iff.mp h
    have hreturns : afterExport? (withReturns (c :: rest)) = some (withReturns tail, next) := by
      rw [afterExport?_withReturns, hafter]
      rfl
    rw [dropExports_of_afterExport hreturns, ih]
  | case3 fresh c rest h ih =>
    have hkept : (if fresh then afterExport? (withReturns (c :: rest)) else none) = none := by
      rw [afterExport?_withReturns]
      cases fresh <;> simp_all
    by_cases hc : c = '\n'
    · subst hc
      rw [withReturns_newline] at hkept ⊢
      rw [dropExports_of_kept hkept]
      change '\r' :: dropExports true ('\n' :: withReturns rest) = _
      have hafter : afterExport? ('\n' :: withReturns rest) =
          (afterExport? rest).map fun p => (withReturns p.1, p.2) := by
        rw [afterExport?_cons (by decide), afterExport?_withReturns]
      -- the line feed goes with an export behind it, and stays else
      cases hrest : afterExport? rest with
      | none =>
        rw [hrest] at hafter
        rw [dropExports_of_kept (by simpa using hafter)]
        simpa [isLineEnd] using ih
      | some p =>
        have hsame : dropExports true ('\n' :: withReturns rest) =
            dropExports true (withReturns rest) := by
          rw [hrest] at hafter
          rw [dropExports_of_afterExport hafter, dropExports_of_afterExport]
          rw [afterExport?_withReturns, hrest]
          rfl
        rw [hsame]
        simpa [isLineEnd, withReturns_cons] using ih
    · rw [withReturns_cons hc] at hkept ⊢
      rw [dropExports_of_kept hkept, ih]
      simp [hc, withReturns_cons hc]

theorem after?_eq_some {word cs rest : List Char} (h : after? word cs = some rest) :
    cs = word ++ rest := by
  induction word generalizing cs with
  | nil => simpa [after?] using h
  | cons p word ih =>
    cases cs with
    | nil => cases h
    | cons c cs =>
      rw [after?] at h
      split at h
      · rename_i hp
        rw [ih h, hp, List.cons_append]
      · cases h

/-- What follows an `export` is an end of the text, and does not start with a blank. -/
theorem afterExport?_eq_some {cs tail : List Char} {next : Bool}
    (h : afterExport? cs = some (tail, next)) :
    tail <:+ cs ∧ ∀ c ∈ tail.head?, isBlank c = false := by
  rw [afterExport?] at h
  cases hafter : after? exportWord (cs.dropWhile isBlank) with
  | none => simp [hafter] at h
  | some rest =>
    simp only [hafter, Option.bind_eq_bind, Option.bind_some] at h
    split at h
    · cases h
    · cases h
      have hsuffix : rest <:+ cs.dropWhile isBlank := ⟨exportWord, (after?_eq_some hafter).symm⟩
      exact ⟨((List.dropWhile_suffix isBlank).trans hsuffix).trans (List.dropWhile_suffix isBlank),
        Text.head?_dropWhile rest⟩

/-- **What is left of a file.** -/
theorem dropExports_eq_map {fresh : Bool} {cs : List Char} (h : '\r' ∉ cs) :
    dropExports fresh cs = (runOn fresh cs).map fun c => if c = '\r' then '\n' else c := by
  fun_induction runOn fresh cs with
  | case1 fresh => exact dropExports_nil fresh
  | case2 fresh c rest tail next hdropped ih =>
    rw [dropExports_of_dropped hdropped]
    have htail := afterExport?_eq_some (dropped_iff.mp hdropped).2
    exact ih fun hmem => h (htail.1.mem hmem)
  | case3 fresh c rest hkept ih =>
    simp only [List.mem_cons, not_or] at h
    rw [dropExports_of_kept hkept, ih h.2, List.map_cons]
    congr 1
    split
    · rename_i hc
      rw [hc.1, if_pos rfl]
    · rw [if_neg (Ne.symm h.1)]

/-! ## 4. Paragraphs -/

/-- Carriage returns before line feeds come to stand at the ends of the lines. -/
theorem lines_withReturns (cs : List Char) :
    List.Forall₂ (fun l m => l = m ∨ l = m ++ ['\r']) (lines (withReturns cs)) (lines cs) := by
  induction cs with
  | nil => exact .cons (.inl rfl) .nil
  | cons c cs ih =>
    by_cases hc : c = '\n'
    · subst hc
      exact .cons (.inr rfl) ih
    · rw [withReturns_cons hc, lines, lines, if_neg hc, if_neg hc]
      generalize lines (withReturns cs) = ls, lines cs = ms at ih
      cases ih with
      | nil => exact .cons (.inl rfl) .nil
      | cons hfirst hothers =>
        refine .cons (hfirst.imp ?_ ?_) hothers
        · rintro rfl
          rfl
        · rintro rfl
          rfl

/-- **A carriage return at the end of a line is not read.** -/
theorem filterMap_lines_withReturns (cs : List Char) :
    (lines (withReturns cs)).filterMap binding? = (lines cs).filterMap binding? := by
  have hsame {l m : List Char} (h : l = m ∨ l = m ++ ['\r']) : binding? l = binding? m := by
    rcases h with rfl | rfl
    · rfl
    · rw [binding?, Text.trimChars_concat (by decide), ← binding?]
  have hlines := lines_withReturns cs
  generalize lines (withReturns cs) = ls, lines cs = ms at hlines
  induction hlines with
  | nil => rfl
  | cons hfirst _ ih => rw [List.filterMap_cons, List.filterMap_cons, hsame hfirst, ih]

/-- Line feeds for carriage returns: every line falls into its pieces. -/
theorem lines_map_newline (cs : List Char) :
    lines (cs.map fun c => if c = '\r' then '\n' else c) =
      (lines cs).flatMap (List.splitOn '\r') := by
  simp only [lines_eq_splitOn]
  induction cs with
  | nil => rfl
  | cons c cs ih =>
    obtain ⟨first, others, hrest⟩ := List.exists_cons_of_ne_nil (List.splitOn_ne_nil '\n' cs)
    obtain ⟨piece, pieces, hfirst⟩ := List.exists_cons_of_ne_nil (List.splitOn_ne_nil '\r' first)
    simp only [List.map_cons, List.splitOn_cons_eq_if_modifyHead, ih, hrest, beq_iff_eq]
    by_cases hreturn : c = '\r'
    · simp [hreturn, List.splitOn_cons_eq_if_modifyHead]
    · by_cases hfeed : c = '\n'
      · simp [hfeed]
      · simp [hreturn, hfeed, List.splitOn_cons_eq_if_modifyHead, hfirst]

/-- The paragraphs of a file: a line with its exports dropped, and the lines that run on from
it, as they do where an `export` was dropped behind a line. -/
def paragraphs (text : String) : List (List (List Char)) :=
  (lines (runOn true text.toList)).map (List.splitOn '\r')

/-- The lines of a paragraph as one line. -/
def runTogether (paragraph : List (List Char)) : List Char := ['\r'].intercalate paragraph

/-- What the lines of a file say, one after the other. -/
def settings (content : String) : List (String × String) :=
  (lines (dropExports true content.toList)).filterMap binding?

theorem read_eq_settings (content : String) :
    read content = withAliases ((settings content).foldl (fun bs b => assign b.1 b.2 bs) []) :=
  rfl

/-- **With carriage returns, a paragraph is read as one line.** -/
theorem settings_crlf (text : String) :
    settings (crlf text) = (paragraphs text).filterMap fun p => binding? (runTogether p) := by
  rw [settings, crlf, String.toList_ofList, dropExports_withReturns, filterMap_lines_withReturns,
    paragraphs, List.filterMap_map]
  simp [Function.comp_def, runTogether]

/-- **Without them, it is read line by line.** -/
theorem settings_eq_flatMap {text : String} (h : '\r' ∉ text.toList) :
    settings text = (paragraphs text).flatMap (List.filterMap binding?) := by
  rw [settings, dropExports_eq_map h, lines_map_newline, List.filterMap_flatMap, paragraphs,
    List.flatMap_map]

end RcFile

end Config

end MagnumClient
