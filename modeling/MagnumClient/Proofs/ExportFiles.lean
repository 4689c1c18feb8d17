/-
MagnumClient.Proofs.ExportFiles — files that export variables, and what is read from them.

A file exports variables one `export NAME="value"` to a line. It is read in four passes, and
each has its lemma: the `export`s are dropped (`dropExports_exported`), the text is cut into
lines (`lines_joined`), a line is read as a binding (`binding?_setting`), and the bindings are
collected (`foldl_assign`). Put together, `read_exported`: a file is read as what it exports,
and then filled in by the aliases, each of which gives a variable the value of another if it
has none (`value?_withAliases`).
-/
import Mathlib.Data.List.Nodup
import Mathlib.Data.List.Perm.Basic
import MagnumClient.Config.RcFile

namespace MagnumClient

/-! ## 1. Trimming -/

namespace Text

theorem dropWhile_of_head {cs : List Char} (h : ∀ c ∈ cs.head?, isBlank c = false) :
    cs.dropWhile isBlank = cs := by
  cases cs with
  | nil => rfl
  | cons c cs => simp [h c rfl]

theorem takeWhile_of_head {cs : List Char} (h : ∀ c ∈ cs.head?, isBlank c = false) :
    cs.takeWhile isBlank = [] := by
  cases cs with
  | nil => rfl
  | cons c cs => simp [h c rfl]

theorem trimEndChars_eq_self {cs : List Char} (h : ∀ c ∈ cs.getLast?, isBlank c = false) :
    trimEndChars cs = cs := by
  have hend : ∀ c ∈ cs.reverse.head?, isBlank c = false := by simpa using h
  rw [trimEndChars, dropWhile_of_head hend, List.reverse_reverse]

/-- A text whose ends are not blank is trimmed already. -/
theorem trimChars_eq_self {cs : List Char} (hhead : ∀ c ∈ cs.head?, isBlank c = false)
    (hlast : ∀ c ∈ cs.getLast?, isBlank c = false) : trimChars cs = cs := by
  rw [trimChars, dropWhile_of_head hhead, trimEndChars_eq_self hlast]

/-- A text of no blanks at all is trimmed already. -/
theorem trimChars_of_none {cs : List Char} (h : ∀ c ∈ cs, isBlank c = false) :
    trimChars cs = cs :=
  trimChars_eq_self (fun c hc => h c (List.mem_of_mem_head? hc))
    (fun c hc => h c (List.mem_of_mem_getLast? hc))

end Text

namespace Config.RcFile

open Text (isBlank isLineEnd)

/-! ## 2. Files that export variables -/

/-- A text between two quotes. -/
def enclosed (quote : Char) (cs : List Char) : List Char := quote :: (cs ++ [quote])

/-- A text in quotes. -/
def quoted (cs : List Char) : List Char := '"' :: (cs ++ ['"'])

/-- A line that gives a variable a value in quotes. -/
def setting (b : String × String) : List Char := b.1.toList ++ '=' :: quoted b.2.toList

/-- A line that exports a variable. -/
def exportLine (b : String × String) : String := "export " ++ b.1 ++ "=\"" ++ b.2 ++ "\""

/-- A file that exports variables, a line for each. -/
def exported (bs : Bindings) : String := String.intercalate "\n" (bs.map exportLine)

/-- A text that can name a variable: it is not empty, and has nothing in it that would end the
name or make a comment of the line. -/
structure IsName (name : String) : Prop where
  nonempty : name ≠ ""
  plain : ∀ c ∈ name.toList, isBlank c = false ∧ c ≠ '=' ∧ c ≠ '#'

/-- A letter, a digit or an underscore. -/
def IsWordChar (c : Char) : Prop :=
  ('A' ≤ c ∧ c ≤ 'Z') ∨ ('a' ≤ c ∧ c ≤ 'z') ∨ ('0' ≤ c ∧ c ≤ '9') ∨ c = '_'

theorem IsWordChar.range {c : Char} (h : IsWordChar c) :
    (65 ≤ c.toNat ∧ c.toNat ≤ 90) ∨ (97 ≤ c.toNat ∧ c.toNat ≤ 122) ∨
      (48 ≤ c.toNat ∧ c.toNat ≤ 57) ∨ c.toNat = 95 := by
  rcases h with h | h | h | rfl
  · exact .inl h
  · exact .inr (.inl h)
  · exact .inr (.inr (.inl h))
  · decide

/-- Letters, digits and underscores make names. -/
theorem IsName.of_word {name : String} (h : name ≠ "")
    (hword : ∀ c ∈ name.toList, IsWordChar c) : IsName name := by
  refine ⟨h, fun c hc => ?_⟩
  have hrange := (hword c hc).range
  refine ⟨?_, ?_, ?_⟩
  · simp only [isBlank, Bool.or_eq_false_iff, Bool.and_eq_false_iff, decide_eq_false_iff_not,
      beq_eq_false_iff_ne]
    omega
  · rintro rfl
    simp at hrange
  · rintro rfl
    simp at hrange

/-- Variables that can be exported: each is named once, and no value runs over its line. -/
structure Exportable (bs : Bindings) : Prop where
  distinct : (bs.map Prod.fst).Nodup
  named : ∀ b ∈ bs, IsName b.1
  oneLine : ∀ b ∈ bs, ∀ c ∈ b.2.toList, isLineEnd c = false

/-- Variables named by words can be exported, if their values are lines. -/
theorem Exportable.of_words {bs : Bindings} (hdistinct : (bs.map Prod.fst).Nodup)
    (hwords : ∀ b ∈ bs, b.1 ≠ "" ∧ ∀ c ∈ b.1.toList, IsWordChar c)
    (hvalues : ∀ b ∈ bs, ∀ c ∈ b.2.toList, isLineEnd c = false) : Exportable bs :=
  ⟨hdistinct, fun b hb => .of_word (hwords b hb).1 (hwords b hb).2, hvalues⟩

theorem Exportable.perm {bs order : Bindings} (h : Exportable bs) (hp : order.Perm bs) :
    Exportable order where
  distinct := (hp.map Prod.fst).nodup_iff.mpr h.distinct
  named b hb := h.named b (hp.mem_iff.mp hb)
  oneLine b hb := h.oneLine b (hp.mem_iff.mp hb)

theorem exportLine_toList (b : String × String) :
    (exportLine b).toList = exportWord ++ ' ' :: setting b := by
  simp [exportLine, setting, quoted, exportWord]

/-! ## 3. Dropping the exports -/

/-- Within a line nothing is dropped. -/
theorem dropExports_append {body : List Char} (h : ∀ c ∈ body, isLineEnd c = false)
    (rest : List Char) : dropExports false (body ++ rest) = body ++ dropExports false rest := by
  induction body with
  | nil => rfl
  | cons c body ih =>
    have hc : isLineEnd c = false := h c List.mem_cons_self
    rw [List.cons_append, dropExports]
    simp [hc, ih fun d hd => h d (List.mem_cons_of_mem _ hd)]

theorem after?_append (word rest : List Char) : after? word (word ++ rest) = some rest := by
  induction word with
  | nil => rfl
  | cons c word ih => simp [after?, ih]

theorem dropExports_of_afterExport {cs tail : List Char} {fresh : Bool}
    (h : afterExport? cs = some (tail, fresh)) : dropExports true cs = dropExports fresh tail := by
  cases cs with
  | nil => cases h
  | cons c rest =>
    rw [dropExports]
    split
    · rename_i hafter
      rw [if_pos rfl, h] at hafter
      cases hafter
      rfl
    · rename_i hafter
      rw [if_pos rfl, h] at hafter
      cases hafter

/-- An `export` is taken with the blank after it. -/
theorem afterExport?_export {body : List Char} (h : ∀ c ∈ body.head?, isBlank c = false) :
    afterExport? (exportWord ++ ' ' :: body) = some (body, false) := by
  have hblank : isBlank ' ' = true := by decide
  have hword : (exportWord ++ ' ' :: body).dropWhile isBlank = exportWord ++ ' ' :: body := by
    simp [exportWord, show isBlank 'e' = false by decide]
  rw [afterExport?, hword, after?_append]
  simp [hblank, Text.takeWhile_of_head h, Text.dropWhile_of_head h, isLineEnd]

/-- At the start of a line, an `export` is dropped with the blank after it. -/
theorem dropExports_export {body : List Char} (h : ∀ c ∈ body.head?, isBlank c = false) :
    dropExports true (exportWord ++ ' ' :: body) = dropExports false body :=
  dropExports_of_afterExport (afterExport?_export h)

/-- The lines of a text, each after the other. -/
abbrev joined (ls : List (List Char)) : List Char := List.intercalate ['\n'] ls

theorem dropExports_nil (fresh : Bool) : dropExports fresh [] = [] := by
  rw [dropExports]

theorem not_isLineEnd_of_not_isBlank {c : Char} (h : isBlank c = false) : isLineEnd c = false := by
  by_contra hc
  have := Text.isBlank_of_isLineEnd (by simpa using hc)
  rw [h] at this
  cases this

theorem IsName.inline {name : String} (h : IsName name) :
    ∀ c ∈ name.toList, isLineEnd c = false :=
  fun c hc => not_isLineEnd_of_not_isBlank (h.plain c hc).1

/-- The line that sets a variable has no line end in it. -/
theorem setting_oneLine {b : String × String} (hname : IsName b.1)
    (hvalue : ∀ c ∈ b.2.toList, isLineEnd c = false) : ∀ c ∈ setting b, isLineEnd c = false := by
  intro c hc
  simp only [setting, quoted, List.mem_append, List.mem_cons, List.not_mem_nil, or_false] at hc
  rcases hc with hc | rfl | rfl | hc | rfl
  · exact hname.inline c hc
  · decide
  · decide
  · exact hvalue c hc
  · decide

theorem enclosed_getLast? (quote : Char) (cs : List Char) :
    (enclosed quote cs).getLast? = some quote := by
  rw [enclosed, ← List.cons_append]
  exact List.getLast?_concat

theorem quoted_getLast? (cs : List Char) : (quoted cs).getLast? = some '"' :=
  enclosed_getLast? '"' cs

/-- What starts with a name starts with no blank, and is no comment. -/
theorem IsName.head {name : String} (h : IsName name) (rest : List Char) :
    ∀ c ∈ (name.toList ++ rest).head?, isBlank c = false ∧ c ≠ '#' := by
  intro c hc
  cases hn : name.toList with
  | nil => exact absurd (String.toList_eq_nil_iff.mp hn) h.nonempty
  | cons d ds =>
    have hd := h.plain d (hn ▸ List.mem_cons_self)
    rw [hn, List.cons_append, List.head?_cons, Option.mem_some_iff] at hc
    exact hc ▸ ⟨hd.1, hd.2.2⟩

/-- The line that sets a variable starts with the name, also when more is to come. -/
theorem setting_head {b : String × String} (h : IsName b.1) (rest : List Char) :
    ∀ c ∈ (setting b ++ rest).head?, isBlank c = false ∧ c ≠ '#' := by
  rw [setting, List.append_assoc]
  exact h.head _

theorem setting_getLast? (b : String × String) : (setting b).getLast? = some '"' := by
  rw [setting, List.getLast?_append, List.getLast?_cons, quoted_getLast?]
  rfl

theorem exported_toList (bs : Bindings) :
    (exported bs).toList = joined (bs.map fun b => exportWord ++ ' ' :: setting b) := by
  simp [exported, Function.comp_def, exportLine_toList]

/-- Dropping the exports leaves the settings, line for line. -/
theorem dropExports_exported {bs : Bindings} (hnames : ∀ b ∈ bs, IsName b.1)
    (hvalues : ∀ b ∈ bs, ∀ c ∈ b.2.toList, isLineEnd c = false) :
    dropExports true (exported bs).toList = joined (bs.map setting) := by
  rw [exported_toList]
  -- one line after the other: what follows a line is nothing, or a line end and the other lines
  induction bs with
  | nil => exact dropExports_nil true
  | cons b bs ih =>
    have hb := hnames b List.mem_cons_self
    have hline := setting_oneLine hb (hvalues b List.mem_cons_self)
    have hhead (rest : List Char) : ∀ c ∈ (setting b ++ rest).head?, isBlank c = false :=
      fun c hc => (setting_head hb rest c hc).1
    cases bs with
    | nil =>
      have hrest := dropExports_append hline []
      have hexport := dropExports_export (hhead [])
      rw [List.append_nil] at hexport hrest
      simp [hexport, hrest, dropExports_nil]
    | cons b' bs =>
      have hih := ih (fun d hd => hnames d (List.mem_cons_of_mem _ hd))
        (fun d hd => hvalues d (List.mem_cons_of_mem _ hd))
      simp only [joined, List.map_cons, List.intercalate_cons_cons, List.append_assoc] at hih ⊢
      rw [List.cons_append, dropExports_export (hhead _), dropExports_append hline,
        List.cons_append, dropExports]
      simpa [isLineEnd] using hih

/-! ## 4. Reading the lines -/

theorem lines_eq_splitOn (cs : List Char) : lines cs = cs.splitOn '\n' := by
  induction cs with
  | nil => rfl
  | cons c cs ih =>
    obtain ⟨first, others, hrest⟩ := List.exists_cons_of_ne_nil (List.splitOn_ne_nil '\n' cs)
    rw [hrest] at ih
    rw [List.splitOn_cons_eq_if_modifyHead, hrest, lines, ih]
    by_cases hc : c = '\n' <;> simp [hc]

/-- Joined lines are read one by one. -/
theorem lines_joined {ls : List (List Char)} (hne : ls ≠ []) (h : ∀ l ∈ ls, '\n' ∉ l) :
    lines (joined ls) = ls := by
  rw [lines_eq_splitOn]
  exact List.splitOn_intercalate '\n' h hne

/-- A value in quotes is read without them, whatever quotes it has in it. -/
theorem unquote_enclosed {quote : Char} (h : quote = '"' ∨ quote = '\'') (cs : List Char) :
    unquote (enclosed quote cs) = cs := by
  have hends : isQuotedBy quote (enclosed quote cs) = true := by
    rw [isQuotedBy, enclosed_getLast?, enclosed]
    simp
  have hquoted : (isQuotedBy '"' (enclosed quote cs) || isQuotedBy '\'' (enclosed quote cs)) =
      true := by
    rcases h with rfl | rfl <;> simp [hends]
  have hlength : 2 ≤ (enclosed quote cs).length := by simp [enclosed]
  rw [unquote, hquoted, if_pos (by simpa using hlength), enclosed, List.tail_cons,
    List.dropLast_concat]

theorem unquote_quoted (cs : List Char) : unquote (quoted cs) = cs :=
  unquote_enclosed (.inl rfl) cs

/-- A line that sets a variable says that. -/
theorem binding?_setting {b : String × String} (h : IsName b.1) :
    binding? (setting b) = some b := by
  have hquote : isBlank '"' = false := by decide
  have hhead : ∀ c ∈ (setting b).head?, isBlank c = false ∧ c ≠ '#' := by
    simpa using setting_head h []
  have htrim : Text.trimChars (setting b) = setting b :=
    Text.trimChars_eq_self (fun c hc => (hhead c hc).1) (by simp [setting_getLast?, hquote])
  have hcomment : ((setting b).head? == some '#') = false :=
    beq_eq_false_iff_ne.mpr fun hc => (hhead '#' hc).2 rfl
  have hname : ∀ c ∈ b.1.toList, (c != '=') = true := fun c hc => by
    simpa using (h.plain c hc).2.1
  have hdrop : (setting b).dropWhile (· != '=') = '=' :: quoted b.2.toList := by
    rw [setting, List.dropWhile_append_of_pos hname]
    simp
  have htake : (setting b).takeWhile (· != '=') = b.1.toList := by
    rw [setting, List.takeWhile_append_of_pos hname]
    simp
  have hvalue : Text.trimChars (quoted b.2.toList) = quoted b.2.toList :=
    Text.trimChars_eq_self (by simp [quoted, hquote]) (by simp [quoted_getLast?, hquote])
  rw [binding?, htrim, hcomment, hdrop, htake]
  simp [hvalue, Text.trimChars_of_none fun c hc => (h.plain c hc).1, unquote_quoted]

/-! ## 5. Collecting the bindings -/

theorem assign_of_not_mem {name value : String} {bs : Bindings} (h : name ∉ bs.map Prod.fst) :
    assign name value bs = bs ++ [(name, value)] := by
  induction bs with
  | nil => rfl
  | cons b bs ih =>
    simp only [List.map_cons, List.mem_cons, not_or] at h
    simp [assign, Ne.symm h.1, ih h.2]

/-- Bindings of different variables are collected as they stand. -/
theorem foldl_assign {bs acc : Bindings} (h : ((acc ++ bs).map Prod.fst).Nodup) :
    bs.foldl (fun acc b => assign b.1 b.2 acc) acc = acc ++ bs := by
  induction bs generalizing acc with
  | nil => simp
  | cons b bs ih =>
    have hnew : b.1 ∉ acc.map Prod.fst := fun hmem => by
      rw [List.map_append, List.nodup_append] at h
      exact h.2.2 _ hmem _ List.mem_cons_self rfl
    rw [List.foldl_cons, assign_of_not_mem hnew, ih (by simpa using h)]
    simp

/-- **A file is read as what it exports**, filled in by the aliases. -/
theorem read_exported {bs : Bindings} (h : Exportable bs) :
    read (exported bs) = withAliases bs := by
  have hlines : (lines (joined (bs.map setting))).filterMap binding? = bs := by
    by_cases hbs : bs = []
    · subst hbs
      rfl
    · have hends : ∀ l ∈ bs.map setting, '\n' ∉ l := by
        intro l hl hmem
        obtain ⟨b, hb, rfl⟩ := List.mem_map.mp hl
        simpa [isLineEnd] using setting_oneLine (h.named b hb) (h.oneLine b hb) _ hmem
      have hread : ∀ b ∈ bs, (binding? ∘ setting) b = some b :=
        fun b hb => binding?_setting (h.named b hb)
      rw [lines_joined (by simpa using hbs) hends, List.filterMap_map,
        List.filterMap_congr hread]
      exact List.filterMap_some
  rw [read, dropExports_exported h.named h.oneLine, hlines,
    foldl_assign (by simpa using h.distinct)]
  rfl

/-! ## 6. What the aliases fill in -/

theorem value?_eq_some_iff {bs : Bindings} (h : (bs.map Prod.fst).Nodup) {name value : String} :
    value? name bs = some value ↔ (name, value) ∈ bs := by
  induction bs with
  | nil => simp [value?]
  | cons b bs ih =>
    obtain ⟨k, v⟩ := b
    obtain ⟨hnew, hrest⟩ := List.nodup_cons.mp h
    by_cases hk : k = name
    · subst hk
      have hnone : (k, value) ∉ bs := fun hmem => hnew (List.mem_map.mpr ⟨_, hmem, rfl⟩)
      simp [value?, hnone, eq_comm]
    · simp [value?, hk, ih hrest, Ne.symm hk]

/-- The order of the variables does not matter. -/
theorem value?_perm {bs order : Bindings} (h : (bs.map Prod.fst).Nodup) (hp : order.Perm bs)
    (name : String) : value? name order = value? name bs := by
  have horder := (hp.map Prod.fst).nodup_iff.mpr h
  refine Option.ext fun value => ?_
  rw [value?_eq_some_iff horder, value?_eq_some_iff h, hp.mem_iff]

/-- The value of a variable that is filled in from another. -/
def filled (target source : String) (bs : Bindings) : Option String :=
  ((set? target bs).or (set? source bs)).or (value? target bs)

theorem value?_of_set? {name value : String} {bs : Bindings} (h : set? name bs = some value) :
    value? name bs = some value := (Option.filter_eq_some_iff.mp h).1

theorem value?_fill (target source name : String) (bs : Bindings) :
    value? name (fill target source bs) =
      if target = name then filled target source bs else value? name bs := by
  unfold fill filled
  by_cases hn : target = name
  · subst hn
    cases hs : set? source bs <;> cases ht : set? target bs <;> simp [value?_of_set?, ht]
  · cases set? source bs <;> cases set? target bs <;> simp [hn]

/-- The aliases fill in three variables and change no other. -/
theorem value?_withAliases (name : String) (bs : Bindings) :
    value? name (withAliases bs) =
      if "OS_PROJECT_ID" = name then filled "OS_PROJECT_ID" "OS_TENANT_ID" bs
      else if "OS_PROJECT_NAME" = name then filled "OS_PROJECT_NAME" "OS_TENANT_NAME" bs
      else if "OS_DOMAIN_NAME" = name then filled "OS_DOMAIN_NAME" "OS_PROJECT_DOMAIN_NAME" bs
      else value? name bs := by
  simp [withAliases, value?_fill, filled, set?]

/-- What is told of an optional text: nothing if it is missing or blank. -/
def told (value : Option String) : Option String :=
  value.bind fun s => if (Text.trim s).isEmpty then none else some (Text.trim s)

theorem told_of_set?_eq_none {name : String} {bs : Bindings} (h : set? name bs = none) :
    told (value? name bs) = none := by
  cases hv : value? name bs with
  | none => rfl
  | some v =>
    rw [set?, hv] at h
    have hempty : v = "" := by simpa using h
    subst hempty
    rfl

/-- A variable that is filled in tells what it told, or else what the other tells. -/
theorem told_filled (target source : String) (bs : Bindings) :
    told (filled target source bs) =
      if (set? target bs).isSome then told (value? target bs) else told (value? source bs) := by
  unfold filled
  cases ht : set? target bs with
  | some v => simp [value?_of_set? ht]
  | none =>
    cases hs : set? source bs with
    | some v => simp [value?_of_set? hs]
    | none => simp [told_of_set?_eq_none ht, told_of_set?_eq_none hs]

/-- A variable that is filled in from its fallback is told as before, with the fallback. -/
theorem told_filled_or (target source : String) (bs : Bindings) :
    (told (filled target source bs)).or (told (value? source bs)) =
      (told (value? target bs)).or (told (value? source bs)) := by
  rw [told_filled]
  cases ht : set? target bs with
  | some v => simp
  | none => simp [told_of_set?_eq_none ht]

/-- And a variable that is filled in from what it is a fallback for is told as before. -/
theorem or_told_filled (target source : String) (bs : Bindings) :
    (told (value? source bs)).or (told (filled target source bs)) =
      (told (value? source bs)).or (told (value? target bs)) := by
  rw [told_filled]
  cases ht : set? target bs with
  | some v => simp
  | none => simp [told_of_set?_eq_none ht]

end Config.RcFile

end MagnumClient
