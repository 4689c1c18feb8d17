/-
MagnumClient.Proofs.Scripts — RC files as they are written by hand.

A line of such a file sets a variable, or it is blank, or a comment (`Line`). It may be indented;
a variable may be exported or not, and its value be written in quotes of either kind, or without
any if it would be read like that (`Bare`). What the file sets is what its lines set, one after
the other (`settings_script`).

This is not read off line by line, because the blanks that go with an `export` may be line ends.
Lines that set something and comments keep to themselves (`keeps_setting`, `keeps_comment`): an
exported one is left without its `export` and the blanks before it, any other as it is, and what
follows is then read on its own. A blank line does not. If an `export` follows, it goes with that,
together with its line end, and else it is left; but it sets nothing either way
(`settingsOf_blank`).

Of several values that are given to a variable the last one counts (`value?_assigned`). So a file
is read as the last values of its variables, three of which are completed by older names
(`script_read`).
-/
import Mathlib.Data.List.Induction
import MagnumClient.Proofs.LineEndings

namespace MagnumClient

namespace Text

/-- Blanks at the start do not outlive trimming. -/
theorem trimChars_append {indent : List Char} (h : ∀ c ∈ indent, isBlank c = true)
    (rest : List Char) : trimChars (indent ++ rest) = trimChars rest := by
  rw [trimChars, trimChars, List.dropWhile_append_of_pos h]

end Text

namespace Config.RcFile

open Text (isBlank isLineEnd)

/-! ## 1. Lines -/

/-- How a value is written. -/
inductive Quotes where
  | double
  | single
  | bare

/-- A value as it is written. -/
def Quotes.write : Quotes → List Char → List Char
  | double, cs => enclosed '"' cs
  | single, cs => enclosed '\'' cs
  | bare, cs => cs

/-- A value that can stand without quotes: it has no blanks at its ends, and no quotes around
it. -/
structure Bare (cs : List Char) : Prop where
  head : ∀ c ∈ cs.head?, isBlank c = false
  last : ∀ c ∈ cs.getLast?, isBlank c = false
  unquoted : ∀ quote ∈ ['"', '\''], ∀ ds, cs ≠ enclosed quote ds

/-- A value with no quote at its start is not in quotes. -/
theorem Bare.of_head {cs : List Char}
    (hhead : ∀ c ∈ cs.head?, isBlank c = false ∧ c ∉ ['"', '\''])
    (hlast : ∀ c ∈ cs.getLast?, isBlank c = false) : Bare cs where
  head c hc := (hhead c hc).1
  last := hlast
  unquoted quote hquote ds hds := by
    subst hds
    exact (hhead quote rfl).2 hquote

/-- A line of a file. -/
inductive Line where
  /-- A variable is given a value. -/
  | setting (indent : String) (exported : Bool) (name : String) (quotes : Quotes) (value : String)
  /-- A comment. -/
  | comment (indent text : String)
  /-- Nothing but blanks. -/
  | blank (indent : String)

namespace Line

/-- What is written to give a variable a value. -/
def assignment (name : String) (quotes : Quotes) (value : String) : List Char :=
  name.toList ++ '=' :: quotes.write value.toList

/-- What is written in a line. -/
def chars : Line → List Char
  | setting indent exported name quotes value =>
    indent.toList ++ ((if exported then exportWord ++ [' '] else []) ++
      assignment name quotes value)
  | comment indent text => indent.toList ++ '#' :: text.toList
  | blank indent => indent.toList

/-- What a line sets. -/
def sets? : Line → Option (String × String)
  | setting _ _ name _ value => some (name, value)
  | comment _ _ => none
  | blank _ => none

/-- Blanks that do not end the line. -/
def IsIndent (s : String) : Prop := ∀ c ∈ s.toList, isBlank c = true ∧ c ≠ '\n'

/-- A text within a line. -/
def IsInline (s : String) : Prop := ∀ c ∈ s.toList, isLineEnd c = false

/-- A line that can be written like that. All words are names of variables
(`IsName.of_word`). -/
def Proper : Line → Prop
  | setting indent _ name quotes value =>
    IsIndent indent ∧ IsName name ∧ IsInline value ∧ (quotes = .bare → Bare value.toList)
  | comment indent text => IsIndent indent ∧ IsInline text
  | blank indent => IsIndent indent

end Line

/-- A file of lines. -/
def script (ls : List Line) : String := String.ofList (joined (ls.map Line.chars))

/-! ## 2. Values -/

/-- A text with the same character at both ends, unless it is only that. -/
theorem exists_enclosed {quote : Char} {cs : List Char} (hlength : 2 ≤ cs.length)
    (h : isQuotedBy quote cs = true) : ∃ ds, cs = enclosed quote ds := by
  simp only [isQuotedBy, Bool.and_eq_true, beq_iff_eq] at h
  cases cs with
  | nil => simp at hlength
  | cons c cs =>
    rcases cs.eq_nil_or_concat with rfl | ⟨ds, d, rfl⟩
    · simp at hlength
    · rw [List.concat_eq_append, ← List.cons_append, List.getLast?_concat] at h
      obtain ⟨hhead, hlast⟩ := h
      cases hhead
      cases hlast
      exact ⟨ds, by rw [enclosed, List.concat_eq_append]⟩

theorem unquote_bare {cs : List Char} (h : Bare cs) : unquote cs = cs := by
  unfold unquote
  split
  · rename_i hquoted
    simp only [Bool.and_eq_true, Bool.or_eq_true, decide_eq_true_eq] at hquoted
    obtain ⟨hlength, hquoted | hquoted⟩ := hquoted
    · obtain ⟨ds, hds⟩ := exists_enclosed hlength hquoted
      exact absurd hds (h.unquoted '"' (by simp) ds)
    · obtain ⟨ds, hds⟩ := exists_enclosed hlength hquoted
      exact absurd hds (h.unquoted '\'' (by simp) ds)
  · rfl

/-- A value is read as it was meant, however it is written. -/
theorem unquote_write {quotes : Quotes} {cs : List Char} (h : quotes = .bare → Bare cs) :
    unquote (quotes.write cs) = cs := by
  cases quotes with
  | double => exact unquote_enclosed (.inl rfl) cs
  | single => exact unquote_enclosed (.inr rfl) cs
  | bare => exact unquote_bare (h rfl)

/-- There are no blanks at the ends of a written value. -/
theorem write_ends {quotes : Quotes} {cs : List Char} (h : quotes = .bare → Bare cs) :
    (∀ c ∈ (quotes.write cs).head?, isBlank c = false) ∧
      ∀ c ∈ (quotes.write cs).getLast?, isBlank c = false := by
  have henclosed {quote : Char} (hquote : isBlank quote = false) :
      (∀ c ∈ (enclosed quote cs).head?, isBlank c = false) ∧
        ∀ c ∈ (enclosed quote cs).getLast?, isBlank c = false := by
    rw [enclosed_getLast?]
    simp [enclosed, hquote]
  cases quotes with
  | double => exact henclosed (by decide)
  | single => exact henclosed (by decide)
  | bare => exact ⟨(h rfl).head, (h rfl).last⟩

theorem write_inline {quotes : Quotes} {cs : List Char} (h : ∀ c ∈ cs, isLineEnd c = false) :
    ∀ c ∈ quotes.write cs, isLineEnd c = false := by
  have hdouble : isLineEnd '"' = false := by decide
  have hsingle : isLineEnd '\'' = false := by decide
  cases quotes <;> simpa [Quotes.write, enclosed, or_imp, forall_and, hdouble, hsingle] using h

/-! ## 3. What one line sets -/

theorem not_mem_indent {c : Char} {indent : List Char} (h : ∀ c ∈ indent, isBlank c = true)
    (hc : isBlank c = false) : c ∉ indent := fun hmem => by
  rw [h c hmem] at hc
  cases hc

section

variable {indent : List Char} (hindent : ∀ c ∈ indent, isBlank c = true)
include hindent

/-- A line that sets a variable is read as that. -/
theorem binding?_indent_assignment {name value : String} (hname : IsName name) {quotes : Quotes}
    (hbare : quotes = .bare → Bare value.toList) :
    binding? (indent ++ Line.assignment name quotes value) = some (name, value) := by
  have hplain : ∀ c ∈ name.toList, isBlank c = false := fun c hc => (hname.plain c hc).1
  have hequals : '=' ∉ indent ++ name.toList := by
    rw [List.mem_append, not_or]
    exact ⟨not_mem_indent hindent (by decide), fun hmem => (hname.plain _ hmem).2.1 rfl⟩
  have hcomment : ((indent ++ name.toList).dropWhile isBlank).head? ≠ some '#' := by
    rw [List.dropWhile_append_of_pos hindent,
      Text.dropWhile_of_head fun c hc => hplain c (List.mem_of_mem_head? hc)]
    exact fun hc => (hname.plain '#' (List.mem_of_mem_head? hc)).2.2 rfl
  obtain ⟨hhead, hlast⟩ := write_ends hbare
  rw [Line.assignment, ← List.append_assoc, binding?_append hequals, if_neg hcomment,
    Text.trimChars_append hindent, Text.trimChars_of_none hplain, Text.trimEndChars_eq_self hlast,
    Text.trimChars_eq_self hhead hlast, unquote_write hbare, String.ofList_toList,
    String.ofList_toList]

/-- A comment sets nothing. -/
theorem binding?_indent_comment (text : List Char) : binding? (indent ++ '#' :: text) = none := by
  have htrim : Text.trimChars (indent ++ '#' :: text) = '#' :: Text.trimEndChars text := by
    rw [Text.trimChars_append_cons (by decide), List.dropWhile_eq_nil_iff.mpr hindent]
    rfl
  rw [binding?, htrim]
  rfl

/-- Blanks set nothing. -/
theorem binding?_indent : binding? indent = none :=
  binding?_of_not_mem (not_mem_indent hindent (by decide))

/-! ## 4. What is left of one line -/

omit hindent in
theorem dropExports_of_none {fresh : Bool} {c : Char} {rest : List Char}
    (h : afterExport? (c :: rest) = none) :
    dropExports fresh (c :: rest) = c :: dropExports (isLineEnd c) rest :=
  dropExports_of_kept (by rw [h]; cases fresh <;> rfl)

/-- Blanks before an `export` go with it. -/
theorem afterExport?_append (rest : List Char) :
    afterExport? (indent ++ rest) = afterExport? rest := by
  induction indent with
  | nil => rfl
  | cons c indent ih =>
    rw [List.forall_mem_cons] at hindent
    rw [List.cons_append, afterExport?_cons hindent.1, ih hindent.2]

/-- Blanks are kept if no `export` follows them. -/
theorem dropExports_indent {rest : List Char} (hrest : afterExport? rest = none) (fresh : Bool) :
    ∃ fresh', dropExports fresh (indent ++ rest) = indent ++ dropExports fresh' rest := by
  induction indent generalizing fresh with
  | nil => exact ⟨fresh, rfl⟩
  | cons c indent ih =>
    rw [List.forall_mem_cons] at hindent
    have hkept : afterExport? (c :: (indent ++ rest)) = none := by
      rw [afterExport?_cons hindent.1, afterExport?_append hindent.2, hrest]
    obtain ⟨fresh', hih⟩ := ih hindent.2 (isLineEnd c)
    refine ⟨fresh', ?_⟩
    rw [List.cons_append, List.cons_append, dropExports_of_none hkept, hih]

/-- A text that is no `export` is kept with the blanks before it, to the end of its line. -/
theorem dropExports_indent_append {body rest : List Char} (hne : body ≠ [])
    (hinline : ∀ c ∈ body, isLineEnd c = false) (hkept : afterExport? (body ++ rest) = none) :
    dropExports true (indent ++ (body ++ rest)) = indent ++ body ++ dropExports false rest := by
  obtain ⟨fresh, hindented⟩ := dropExports_indent hindent hkept true
  obtain ⟨c, body, rfl⟩ := List.exists_cons_of_ne_nil hne
  rw [List.forall_mem_cons] at hinline
  rw [List.cons_append] at hkept hindented ⊢
  rw [hindented, dropExports_of_none hkept, hinline.1,
    dropExports_append hinline.2, List.append_assoc, List.cons_append]

/-- An `export` is dropped with the blanks before it. -/
theorem dropExports_indent_export {body rest : List Char}
    (hhead : ∀ c ∈ (body ++ rest).head?, isBlank c = false)
    (hinline : ∀ c ∈ body, isLineEnd c = false) :
    dropExports true (indent ++ (exportWord ++ ' ' :: (body ++ rest))) =
      body ++ dropExports false rest := by
  have hexport : afterExport? (indent ++ (exportWord ++ ' ' :: (body ++ rest))) =
      some (body ++ rest, false) := by
    rw [afterExport?_append hindent, afterExport?_export hhead]
  rw [dropExports_of_afterExport hexport, dropExports_append hinline]

end

section

variable {name value : String} {quotes : Quotes}

theorem assignment_head (h : IsName name) (rest : List Char) :
    ∀ c ∈ (Line.assignment name quotes value ++ rest).head?, isBlank c = false := by
  rw [Line.assignment, List.append_assoc]
  exact fun c hc => (h.head _ c hc).1

theorem assignment_inline (h : IsName name) (hvalue : Line.IsInline value) :
    ∀ c ∈ Line.assignment name quotes value, isLineEnd c = false := by
  rw [Line.assignment, List.forall_mem_append, List.forall_mem_cons]
  exact ⟨h.inline, by decide, write_inline hvalue⟩

/-- The name of a variable is no `export`, since no blank follows it. -/
theorem afterExport?_assignment (h : IsName name) (rest : List Char) :
    afterExport? (Line.assignment name quotes value ++ rest) = none := by
  have hnameless : ∀ c ∈ name.toList, (!isBlank c && c != '=') = true := fun c hc => by
    simp [(h.plain c hc).1, (h.plain c hc).2.1]
  have hword : ∀ c ∈ exportWord, (!isBlank c && c != '=') = true := by
    simp [exportWord, isBlank]
  rw [afterExport?, Text.dropWhile_of_head (assignment_head h rest)]
  cases hafter : after? exportWord (Line.assignment name quotes value ++ rest) with
  | none => rfl
  | some more =>
    -- the name ends at the `=`, and the word would end at the blank behind it
    have hmore : ∀ c ∈ more.head?, isBlank c = false := by
      intro c hc
      by_contra hblank
      rw [Bool.not_eq_false] at hblank
      obtain ⟨more, rfl⟩ : ∃ ds, more = c :: ds := by
        cases more <;> simp_all
      have hends := congrArg (List.dropWhile fun c => !isBlank c && c != '=')
        (after?_eq_some hafter)
      rw [Line.assignment, List.append_assoc, List.cons_append,
        List.dropWhile_append_of_pos hnameless, List.dropWhile_append_of_pos hword] at hends
      obtain ⟨hequals, -⟩ : '=' = c ∧ quotes.write value.toList ++ rest = more := by
        simpa [hblank] using hends
      rw [← hequals] at hblank
      exact absurd hblank (by decide)
    simp [Text.takeWhile_of_head hmore]

end

theorem dropExports_newline (rest : List Char) :
    dropExports false ('\n' :: rest) = '\n' :: dropExports true rest :=
  dropExports_of_kept rfl

/-- A line that keeps to itself: what is left of it sets what the line sets, whatever follows, and
that is read on its own. -/
def Keeps (l : Line) : Prop :=
  ∃ kept, '\n' ∉ kept ∧ binding? kept = l.sets? ∧
    ∀ more, dropExports true (l.chars ++ more) = kept ++ dropExports false more

/-- Blanks and a text within a line have no line feed in them. -/
theorem newline_not_mem {indent : String} (hindent : Line.IsIndent indent) {cs : List Char}
    (hcs : ∀ c ∈ cs, isLineEnd c = false) : '\n' ∉ indent.toList ++ cs := by
  rw [List.mem_append, not_or]
  refine ⟨fun hmem => (hindent _ hmem).2 rfl, fun hmem => ?_⟩
  cases hcs _ hmem

theorem keeps_setting {indent : String} {exported : Bool} {name value : String} {quotes : Quotes}
    (h : (Line.setting indent exported name quotes value).Proper) :
    Keeps (.setting indent exported name quotes value) := by
  obtain ⟨hindent, hname, hvalue, hbare⟩ := h
  have hblank : ∀ c ∈ indent.toList, isBlank c = true := fun c hc => (hindent c hc).1
  have hinline : ∀ c ∈ Line.assignment name quotes value, isLineEnd c = false :=
    assignment_inline hname hvalue
  cases exported with
  | false =>
    refine ⟨indent.toList ++ Line.assignment name quotes value, newline_not_mem hindent hinline,
      binding?_indent_assignment hblank hname hbare, fun more => ?_⟩
    rw [Line.chars, List.append_assoc]
    exact dropExports_indent_append hblank (by simp [Line.assignment]) hinline
      (afterExport?_assignment hname more)
  | true =>
    refine ⟨Line.assignment name quotes value, ?_, ?_, fun more => ?_⟩
    · exact fun hmem => absurd (hinline _ hmem) (by decide)
    · have hline := binding?_indent_assignment (List.forall_mem_nil _) hname hbare
      rwa [List.nil_append] at hline
    · simp only [Line.chars, if_true, List.append_assoc, List.singleton_append]
      exact dropExports_indent_export hblank (assignment_head hname more) hinline

theorem keeps_comment {indent text : String} (h : (Line.comment indent text).Proper) :
    Keeps (.comment indent text) := by
  obtain ⟨hindent, htext⟩ := h
  have hblank : ∀ c ∈ indent.toList, isBlank c = true := fun c hc => (hindent c hc).1
  have hinline : ∀ c ∈ '#' :: text.toList, isLineEnd c = false := by
    rw [List.forall_mem_cons]
    exact ⟨by decide, htext⟩
  refine ⟨indent.toList ++ '#' :: text.toList, newline_not_mem hindent hinline,
    binding?_indent_comment hblank text.toList, fun more => ?_⟩
  rw [Line.chars, List.append_assoc]
  exact dropExports_indent_append hblank (by simp) hinline rfl

/-! ## 5. What a file sets -/

/-- What the lines of a text set. -/
def settingsOf (cs : List Char) : List (String × String) := (lines cs).filterMap binding?

theorem filterMap_cons_eq {α β : Type} (f : α → Option β) (a : α) (as : List α) :
    (a :: as).filterMap f = (f a).toList ++ as.filterMap f := by
  rw [List.filterMap_eq_flatMap_toList, List.flatMap_cons, ← List.filterMap_eq_flatMap_toList]

theorem settingsOf_append_newline {l : List Char} (h : '\n' ∉ l) (rest : List Char) :
    settingsOf (l ++ '\n' :: rest) = (binding? l).toList ++ settingsOf rest := by
  have hlines : lines (l ++ '\n' :: rest) = l :: lines rest := by
    rw [lines_eq_splitOn, lines_eq_splitOn, List.splitOn, List.splitOnP_append_cons _ _ (by simp),
      ← List.splitOn, List.splitOn_eq_singleton h, List.singleton_append]
    rfl
  rw [settingsOf, hlines, filterMap_cons_eq, settingsOf]

theorem settingsOf_line {l : List Char} (h : '\n' ∉ l) :
    settingsOf l = (binding? l).toList := by
  rw [settingsOf, lines_eq_splitOn, List.splitOn_eq_singleton h, filterMap_cons_eq,
    List.filterMap_nil, List.append_nil]

/-- A line that keeps to itself sets what it sets. -/
theorem Keeps.settingsOf_chars {l : Line} (h : Keeps l) :
    settingsOf (dropExports true l.chars) = l.sets?.toList ∧
      ∀ rest, settingsOf (dropExports true (l.chars ++ '\n' :: rest)) =
        l.sets?.toList ++ settingsOf (dropExports true rest) := by
  obtain ⟨kept, hnewline, hbinding, hdrop⟩ := h
  constructor
  · have hlast := hdrop []
    rw [List.append_nil, dropExports_nil, List.append_nil] at hlast
    rw [hlast, settingsOf_line hnewline, hbinding]
  · intro rest
    rw [hdrop, dropExports_newline, settingsOf_append_newline hnewline, hbinding]

/-- A blank line sets nothing, whether it is left or goes with an `export`. -/
theorem settingsOf_blank {indent : String} (h : Line.IsIndent indent) :
    settingsOf (dropExports true indent.toList) = [] ∧
      ∀ rest, settingsOf (dropExports true (indent.toList ++ '\n' :: rest)) =
        settingsOf (dropExports true rest) := by
  have hblank : ∀ c ∈ indent.toList, isBlank c = true := fun c hc => (h c hc).1
  have hnewline : '\n' ∉ indent.toList := fun hmem => (h _ hmem).2 rfl
  constructor
  · have hend : afterExport? [] = none := rfl
    obtain ⟨fresh, hkept⟩ := dropExports_indent hblank hend true
    rw [dropExports_nil, List.append_nil] at hkept
    rw [hkept, settingsOf_line hnewline, binding?_indent hblank]
    rfl
  · intro rest
    have hafter : afterExport? (indent.toList ++ '\n' :: rest) = afterExport? rest := by
      rw [afterExport?_append hblank, afterExport?_cons (by decide)]
    cases hexport : afterExport? rest with
    | none =>
      have hnone : afterExport? ('\n' :: rest) = none := by
        rw [afterExport?_cons (by decide), hexport]
      obtain ⟨fresh, hkept⟩ := dropExports_indent hblank hnone true
      rw [hkept, dropExports_of_none hnone, settingsOf_append_newline hnewline,
        binding?_indent hblank]
      rfl
    | some p =>
      rw [dropExports_of_afterExport (hafter.trans hexport), dropExports_of_afterExport hexport]

/-- **What one line sets**, at the end of a file and before other lines. -/
theorem settingsOf_chars {l : Line} (h : l.Proper) :
    settingsOf (dropExports true l.chars) = l.sets?.toList ∧
      ∀ rest, settingsOf (dropExports true (l.chars ++ '\n' :: rest)) =
        l.sets?.toList ++ settingsOf (dropExports true rest) := by
  cases l with
  | setting => exact (keeps_setting h).settingsOf_chars
  | comment => exact (keeps_comment h).settingsOf_chars
  | blank indent => exact settingsOf_blank h

/-- **A file sets what its lines set.** -/
theorem settings_script {ls : List Line} (h : ∀ l ∈ ls, l.Proper) :
    settings (script ls) = ls.filterMap Line.sets? := by
  rw [settings, script, String.toList_ofList, ← settingsOf]
  induction ls with
  | nil => decide +kernel
  | cons l ls ih =>
    rw [List.forall_mem_cons] at h
    obtain ⟨hlast, hbefore⟩ := settingsOf_chars h.1
    cases ls with
    | nil =>
      rw [List.map_singleton, joined, List.intercalate_singleton, hlast, filterMap_cons_eq,
        List.filterMap_nil, List.append_nil]
    | cons l' ls =>
      rw [filterMap_cons_eq, ← ih h.2, List.map_cons, joined, List.map_cons,
        List.intercalate_cons_cons, List.append_assoc]
      exact hbefore _

/-! ## 6. What a file is read as -/

/-- The value that a variable is given last. -/
def lastOf (name : String) (bs : List (String × String)) : Option String := value? name bs.reverse

/-- The older name of a variable, if it has one. -/
def olderName? (name : String) : Option String :=
  if name = "OS_PROJECT_ID" then some "OS_TENANT_ID"
  else if name = "OS_PROJECT_NAME" then some "OS_TENANT_NAME"
  else if name = "OS_DOMAIN_NAME" then some "OS_PROJECT_DOMAIN_NAME"
  else none

/-- The value of a variable; that of its older name if there is none, or an empty one. -/
def completed (values : String → Option String) (name : String) : Option String :=
  match olderName? name with
  | none => values name
  | some older =>
    if (values name).getD "" = "" ∧ (values older).getD "" ≠ "" then values older
    else values name

/-- The last value counts. -/
theorem value?_assigned (name : String) (bs : List (String × String)) :
    value? name (bs.foldl (fun acc b => assign b.1 b.2 acc) []) = lastOf name bs := by
  induction bs using List.reverseRecOn with
  | nil => rfl
  | append_singleton bs b ih =>
    rw [List.foldl_append, List.foldl_cons, List.foldl_nil, value?_assign, ih, lastOf, lastOf,
      List.reverse_append]
    rfl

/-- A variable that is given a value stays where it is, or is added. -/
theorem map_fst_assign (name value : String) (bs : Bindings) :
    (assign name value bs).map Prod.fst =
      if name ∈ bs.map Prod.fst then bs.map Prod.fst else bs.map Prod.fst ++ [name] := by
  induction bs with
  | nil => simp [assign]
  | cons b bs ih =>
    by_cases hb : b.1 = name
    · simp [assign, hb]
    · simp only [assign, if_neg hb, List.map_cons, ih, List.mem_cons, Ne.symm hb, false_or]
      split <;> rfl

theorem nodup_assign {bs : Bindings} (h : (bs.map Prod.fst).Nodup) (name value : String) :
    ((assign name value bs).map Prod.fst).Nodup := by
  rw [map_fst_assign]
  split
  · exact h
  · rw [List.nodup_append]
    refine ⟨h, List.nodup_singleton name, fun a ha b hb => ?_⟩
    rw [List.mem_singleton] at hb
    exact hb ▸ ne_of_mem_of_not_mem ha ‹_›

theorem nodup_assigned (bs : List (String × String)) :
    ((bs.foldl (fun acc b => assign b.1 b.2 acc) []).map Prod.fst).Nodup := by
  induction bs using List.reverseRecOn with
  | nil => exact List.nodup_nil
  | append_singleton bs b ih =>
    rw [List.foldl_append]
    exact nodup_assign ih b.1 b.2

theorem nodup_fill {bs : Bindings} (h : (bs.map Prod.fst).Nodup) (target source : String) :
    ((fill target source bs).map Prod.fst).Nodup := by
  unfold fill
  split
  · exact nodup_assign h _ _
  · exact h

theorem nodup_withAliases {bs : Bindings} (h : (bs.map Prod.fst).Nodup) :
    ((withAliases bs).map Prod.fst).Nodup :=
  nodup_fill (nodup_fill (nodup_fill h _ _) _ _) _ _

/-- What is filled in is the value of the other variable, where the variable is missing or empty
and the other is not. -/
theorem filled_eq (target source : String) (bs : Bindings) :
    filled target source bs =
      if (value? target bs).getD "" = "" ∧ (value? source bs).getD "" ≠ "" then value? source bs
      else value? target bs := by
  unfold filled set?
  generalize value? target bs = new, value? source bs = old
  have hunset {value : Option String} (h : value.getD "" = "") :
      value.filter (fun v => !v.isEmpty) = none := by
    cases value <;> simp_all
  have hset {value : Option String} (h : value.getD "" ≠ "") :
      ∃ v, value = some v ∧ value.filter (fun v => !v.isEmpty) = some v := by
    cases value <;> simp_all
  by_cases hnew : new.getD "" = ""
  · rw [hunset hnew, Option.none_or]
    by_cases hold : old.getD "" = ""
    · simp [hunset hold, hold]
    · obtain ⟨v, rfl, hv⟩ := hset hold
      rw [hv, if_pos ⟨hnew, hold⟩]
      rfl
  · obtain ⟨v, rfl, hv⟩ := hset hnew
    rw [hv, if_neg fun h => hnew h.1]
    rfl

/-- The aliases complete the values. -/
theorem value?_withAliases_eq (name : String) (bs : Bindings) :
    value? name (withAliases bs) = completed (value? · bs) name := by
  rw [value?_withAliases, completed, olderName?]
  by_cases hid : name = "OS_PROJECT_ID"
  · subst hid
    exact filled_eq ..
  by_cases hname : name = "OS_PROJECT_NAME"
  · subst hname
    exact filled_eq ..
  by_cases hdomain : name = "OS_DOMAIN_NAME"
  · subst hdomain
    exact filled_eq ..
  simp [hid, hname, hdomain, Ne.symm hid, Ne.symm hname, Ne.symm hdomain]

/-- **What a file of lines is read as.** Each variable is there once, with the value that it was
given last. Three variables that are given none, or an empty one, have the value of an older name
instead, if that is not empty. -/
theorem script_read {ls : List Line} (h : ∀ l ∈ ls, l.Proper) :
    ((read (script ls)).map Prod.fst).Nodup ∧
      ∀ name, value? name (read (script ls)) =
        completed (lastOf · (ls.filterMap Line.sets?)) name := by
  rw [read_eq_settings, settings_script h]
  refine ⟨nodup_withAliases (nodup_assigned _), fun name => ?_⟩
  simp only [value?_withAliases_eq, value?_assigned]

/-- A file with quotes and comment signs in its values, a variable that is called like the word
for exports, a blank line that goes with an export, and an older name. -/
theorem script_of_exports :
    let ls : List Line := [.comment "" " export B=1", .setting "" true "A" .single "'=#\"",
      .blank " ", .setting "\t" true "OS_TENANT_NAME" .double "demo",
      .setting "" false "export" .bare "export B=1", .setting " " true "A" .bare "it's #1"]
    let text := "# export B=1\nexport A=''=#\"'\n \n\texport OS_TENANT_NAME=\"demo\"\n" ++
      "export=export B=1\n export A=it's #1"
    (∀ l ∈ ls, l.Proper) ∧ script ls = text ∧ value? "A" (read text) = some "it's #1" ∧
      value? "B" (read text) = none ∧ value? "export" (read text) = some "export B=1" ∧
      value? "OS_PROJECT_NAME" (read text) = some "demo" := by
  intro ls text
  have hproper : ∀ l ∈ ls, l.Proper := by
    have hA : IsName "A" := .of_word (by simp) (by simp [IsWordChar])
    have htenant : IsName "OS_TENANT_NAME" := .of_word (by simp) (by simp [IsWordChar])
    have hexport : IsName "export" := .of_word (by simp) (by simp [IsWordChar])
    have hvalue : Bare "export B=1".toList := .of_head (by simp [isBlank]) (by simp [isBlank])
    have hquote : Bare "it's #1".toList := .of_head (by simp [isBlank]) (by simp [isBlank])
    simpa [ls, Line.Proper, Line.IsIndent, Line.IsInline, isBlank, isLineEnd, hA, htenant, hexport]
      using And.intro hvalue hquote
  have htext : script ls = text := by decide +kernel
  have hread (name : String) := (script_read hproper).2 name
  rw [htext] at hread
  refine ⟨hproper, htext, ?_, ?_, ?_, ?_⟩ <;> rw [hread] <;> decide +kernel

end Config.RcFile

end MagnumClient
