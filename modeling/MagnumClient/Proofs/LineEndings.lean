/-
MagnumClient.Proofs.LineEndings — an RC file with the line ends of another system, and what it
sets.

A file falls into paragraphs, a line and the exported lines that run on from it. Read by itself
it sets what they set line by line; with carriage returns, what each sets as one line. The two
agree where no paragraph says anything else in one line than line by line (`Harmless`). The
converse needs an argument, because what one paragraph loses another might make up for. It
cannot: a paragraph that sets a variable only as one line sets one with a carriage return in its
name, which no line by itself does, or it has a line that sets the variable of no name
(`of_binding?_runTogether`). This needs in turn that what is run on from is not a blank line
(`exists_not_blank_of_mem_paragraphs`).

A file that exports all it sets is one paragraph (`paragraphs_exported`). With carriage returns
it sets one variable at most, and two are required: it is refused, whatever is in it
(`load_exported_crlf`).
-/
import Mathlib.Algebra.Order.BigOperators.Group.List
import Mathlib.Algebra.Order.Group.Nat
import Mathlib.Data.List.Forall2
import MagnumClient.Proofs.Paragraphs

namespace MagnumClient

namespace Config

namespace RcFile

open Text (isBlank isLineEnd)

/-! ## 1. What a line sets -/

theorem dropWhile_ne_append {cs : List Char} (h : '=' ∉ cs) (rest : List Char) :
    (cs ++ '=' :: rest).dropWhile (· != '=') = '=' :: rest := by
  rw [List.dropWhile_append_of_pos fun c hc => bne_iff_ne.mpr (ne_of_mem_of_not_mem hc h)]
  simp

theorem takeWhile_ne_append {cs : List Char} (h : '=' ∉ cs) (rest : List Char) :
    (cs ++ '=' :: rest).takeWhile (· != '=') = cs := by
  rw [List.takeWhile_append_of_pos fun c hc => bne_iff_ne.mpr (ne_of_mem_of_not_mem hc h)]
  simp

/-- A line sets what stands before its first `=`, if that does not make it a comment. -/
theorem binding?_append {name : List Char} (h : '=' ∉ name) (value : List Char) :
    binding? (name ++ '=' :: value) =
      if (name.dropWhile isBlank).head? = some '#' then none
      else some (String.ofList (Text.trimChars name),
        String.ofList (unquote (Text.trimChars (Text.trimEndChars value)))) := by
  have hname : '=' ∉ name.dropWhile isBlank :=
    fun hmem => h ((List.dropWhile_suffix isBlank).mem hmem)
  have hhead : (name.dropWhile isBlank ++ '=' :: Text.trimEndChars value).head? = some '#' ↔
      (name.dropWhile isBlank).head? = some '#' := by
    cases name.dropWhile isBlank <;> simp
  have htrim : Text.trimChars (name.dropWhile isBlank) = Text.trimChars name := by
    rw [Text.trimChars, Text.trimChars, Text.dropWhile_of_head (Text.head?_dropWhile name)]
  simp only [binding?, Text.trimChars_append_cons (show isBlank '=' = false by decide),
    dropWhile_ne_append hname, takeWhile_ne_append hname, htrim, beq_iff_eq, hhead]

theorem binding?_of_not_mem {l : List Char} (h : '=' ∉ l) : binding? l = none := by
  have hdrop : (Text.trimChars l).dropWhile (· != '=') = [] :=
    List.dropWhile_eq_nil_iff.mpr fun c hc =>
      bne_iff_ne.mpr (ne_of_mem_of_not_mem (Text.mem_of_mem_trimChars hc) h)
  rw [binding?, hdrop]
  split <;> rfl

/-- A line that sets a variable, at its first `=`. -/
theorem binding?_eq_some {l : List Char} {b : String × String} (h : binding? l = some b) :
    ∃ name value, l = name ++ '=' :: value ∧ '=' ∉ name ∧
      (name.dropWhile isBlank).head? ≠ some '#' ∧ b.1 = String.ofList (Text.trimChars name) := by
  have hmem : '=' ∈ l := by
    by_contra hmem
    rw [binding?_of_not_mem hmem] at h
    cases h
  obtain ⟨name, value, rfl, hname⟩ := List.eq_append_cons_of_mem hmem
  rw [binding?_append hname] at h
  split at h
  · cases h
  · cases h
    exact ⟨name, value, rfl, hname, ‹_›, rfl⟩

/-- What follows a line changes nothing of the name it sets. -/
theorem binding?_append_of_some {l : List Char} {b : String × String} (h : binding? l = some b)
    (more : List Char) : ∃ value, binding? (l ++ more) = some (b.1, value) := by
  obtain ⟨name, value, rfl, hname, hcomment, hkey⟩ := binding?_eq_some h
  rw [List.append_assoc, List.cons_append, binding?_append hname, if_neg hcomment, hkey]
  exact ⟨_, rfl⟩

/-- A line that has an `=` and sets nothing is a comment, and stays one. -/
theorem not_mem_of_binding?_append {l more : List Char} {b : String × String}
    (hnone : binding? l = none) (h : binding? (l ++ more) = some b) : '=' ∉ l := by
  intro hmem
  obtain ⟨name, value, rfl, hname⟩ := List.eq_append_cons_of_mem hmem
  rw [binding?_append hname] at hnone
  rw [List.append_assoc, List.cons_append, binding?_append hname] at h
  split at hnone
  · rename_i hcomment
    rw [if_pos hcomment] at h
    cases h
  · cases hnone

/-! ## 2. What a paragraph sets as one line -/

theorem runTogether_cons_cons (l d : List Char) (ds : List (List Char)) :
    runTogether (l :: d :: ds) = runTogether ((l ++ '\r' :: d) :: ds) := by
  cases ds <;> simp [runTogether, List.intercalate_cons_cons]

theorem exists_intercalate_cons (sep l : List Char) (ds : List (List Char)) :
    ∃ more, sep.intercalate (l :: ds) = l ++ more := by
  cases ds with
  | nil => exact ⟨[], by simp⟩
  | cons d ds => exact ⟨_, by rw [List.intercalate_cons_cons, List.append_assoc]⟩

theorem mem_of_mem_intercalate {c : Char} {sep : List Char} {ls : List (List Char)}
    (h : c ∈ sep.intercalate ls) : c ∈ sep ∨ ∃ l ∈ ls, c ∈ l := by
  induction ls with
  | nil => cases h
  | cons l ls ih =>
    cases ls with
    | nil => exact .inr ⟨l, List.mem_cons_self, by simpa using h⟩
    | cons m ls =>
      rw [List.intercalate_cons_cons, List.append_assoc, List.mem_append, List.mem_append] at h
      rcases h with h | h | h
      · exact .inr ⟨l, List.mem_cons_self, h⟩
      · exact .inl h
      · exact (ih h).imp_right fun ⟨k, hk, hc⟩ => ⟨k, List.mem_cons_of_mem _ hk, hc⟩

/-- A paragraph that starts with a line that sets something sets that variable. -/
theorem binding?_runTogether_of_some {l : List Char} {b : String × String}
    (h : binding? l = some b) (ds : List (List Char)) :
    ∃ value, binding? (runTogether (l :: ds)) = some (b.1, value) := by
  obtain ⟨more, hmore⟩ := exists_intercalate_cons ['\r'] l ds
  rw [runTogether, hmore]
  exact binding?_append_of_some h more

/-- What a line sets behind a line without an `=` and a carriage return: its name is not empty,
and has the carriage return in it unless the line by itself sets the variable of no name. -/
theorem of_binding?_append_return {l d : List Char} {b : String × String}
    (hl : ∃ c ∈ l, isBlank c = false) (hplain : '=' ∉ l)
    (h : binding? (l ++ '\r' :: d) = some b) :
    b.1 ≠ "" ∧ ('\r' ∈ b.1.toList ∨ ∃ value, binding? d = some ("", value)) := by
  have hmem : '=' ∈ d := by
    by_contra hmem
    rw [binding?_of_not_mem (by simp [hplain, hmem])] at h
    cases h
  obtain ⟨name, value, rfl, hname⟩ := List.eq_append_cons_of_mem hmem
  have hjoined : l ++ '\r' :: (name ++ '=' :: value) = (l ++ '\r' :: name) ++ '=' :: value := by
    simp
  rw [hjoined, binding?_append (by simp [hplain, hname])] at h
  split at h
  · cases h
  cases h
  have hnonempty : ∃ c ∈ l ++ '\r' :: name, isBlank c = false :=
    hl.imp fun c hc => ⟨List.mem_append_left _ hc.1, hc.2⟩
  rw [String.toList_ofList, Ne, ← String.toList_eq_nil_iff, String.toList_ofList]
  refine ⟨Text.trimChars_ne_nil hnonempty, ?_⟩
  by_cases hblank : name.all isBlank = true
  · have hdrop : name.dropWhile isBlank = [] :=
      List.dropWhile_eq_nil_iff.mpr (by simpa using hblank)
    rw [binding?_append hname, hdrop, Text.trimChars_of_all hblank]
    exact .inr ⟨_, rfl⟩
  · exact .inl (Text.mem_trimChars_between hl (by simpa using hblank))

/-- **What a paragraph sets only as one line**: its name is not empty, and has a carriage return
in it unless one of the lines by itself sets the variable of no name. -/
theorem of_binding?_runTogether {l : List Char} {ds : List (List Char)} {b : String × String}
    (hl : ∃ c ∈ l, isBlank c = false) (hnone : binding? l = none)
    (h : binding? (runTogether (l :: ds)) = some b) :
    b.1 ≠ "" ∧ ('\r' ∈ b.1.toList ∨ ∃ d ∈ ds, ∃ value, binding? d = some ("", value)) := by
  -- the lines are put to the first one by one, until that sets something
  induction ds generalizing l with
  | nil =>
    rw [runTogether, List.intercalate_singleton, hnone] at h
    cases h
  | cons d ds ih =>
    rw [runTogether_cons_cons] at h
    cases hrun : binding? (l ++ '\r' :: d) with
    | none =>
      have hlonger : ∃ c ∈ l ++ '\r' :: d, isBlank c = false :=
        hl.imp fun c hc => ⟨List.mem_append_left _ hc.1, hc.2⟩
      refine (ih hlonger hrun h).imp_right (Or.imp_right ?_)
      rintro ⟨e, he, hvalue⟩
      exact ⟨e, List.mem_cons_of_mem _ he, hvalue⟩
    | some b' =>
      have hname : b.1 = b'.1 := by
        obtain ⟨value, hsame⟩ := binding?_runTogether_of_some hrun ds
        rw [hsame] at h
        cases h
        rfl
      rw [hname]
      refine (of_binding?_append_return hl (not_mem_of_binding?_append hnone hrun)
        hrun).imp_right (Or.imp_right fun hvalue => ?_)
      exact ⟨d, List.mem_cons_self, hvalue⟩

/-! ## 3. What a paragraph starts with -/

/-- Every carriage return has something on its line before it that is not blank; `seen` says
whether there is such a thing on the line before the text. -/
def Anchored : Bool → List Char → Prop
  | _, [] => True
  | seen, c :: rest =>
    (c = '\r' → seen = true) ∧ Anchored (if c = '\n' then false else seen || !isBlank c) rest

/-- Nothing runs on from a blank line: what starts a line goes with the `export` behind it. -/
theorem anchored_runOn {seen fresh : Bool} {cs : List Char} (hreturn : '\r' ∉ cs)
    (h : seen = true ∨ fresh = true ∨ afterExport? cs = none ∨
      ∀ c ∈ cs.head?, isBlank c = false) : Anchored seen (runOn fresh cs) := by
  fun_induction runOn fresh cs generalizing seen with
  | case1 => trivial
  | case2 fresh c rest tail next hdropped ih =>
    have htail := afterExport?_eq_some (dropped_iff.mp hdropped).2
    exact ih (fun hmem => hreturn (htail.1.mem hmem)) (.inr (.inr (.inr htail.2)))
  | case3 fresh c rest hkept ih =>
    simp only [List.mem_cons, not_or] at hreturn
    -- a blank is kept where no export follows, or else behind something on the line
    have hblank (hc : isBlank c = true) : seen = true ∨ afterExport? rest = none := by
      rw [← afterExport?_cons hc]
      rcases h with h | rfl | h | h
      · exact .inl h
      · exact .inr hkept
      · exact .inr h
      · have := h c rfl
        rw [hc] at this
        cases this
    by_cases hrun : c = '\n' ∧ (afterExport? rest).isSome
    · have hseen : seen = true := by
        refine (hblank (by rw [hrun.1]; decide)).resolve_right fun hnone => ?_
        rw [hnone] at hrun
        cases hrun.2
      rw [if_pos hrun]
      exact ⟨fun _ => hseen, ih hreturn.2 (.inl (by simp [hseen]))⟩
    · rw [if_neg hrun]
      refine ⟨fun hc => absurd hc.symm hreturn.1, ih hreturn.2 ?_⟩
      by_cases hfeed : c = '\n'
      · exact .inr (.inl (by rw [hfeed]; decide))
      · by_cases hc : isBlank c = true
        · exact (hblank hc).imp (by simp_all) fun hnone => .inr (.inl hnone)
        · exact .inl (by simp_all)

theorem Anchored.lines {seen : Bool} {cs : List Char} (h : Anchored seen cs) :
    ∃ first others, lines cs = first :: others ∧ Anchored seen first ∧
      ∀ l ∈ others, Anchored false l := by
  induction cs generalizing seen with
  | nil => exact ⟨[], [], rfl, trivial, by simp⟩
  | cons c cs ih =>
    obtain ⟨first, others, hlines, hfirst, hothers⟩ := ih h.2
    rw [RcFile.lines, hlines]
    by_cases hc : c = '\n'
    · subst hc
      refine ⟨[], first :: others, by simp, trivial, ?_⟩
      rintro l (_ | ⟨_, hl⟩)
      · exact hfirst
      · exact hothers l hl
    · refine ⟨c :: first, others, by simp [hc], ⟨h.1, ?_⟩, hothers⟩
      exact hfirst

/-- The piece of a line that other pieces run on from is not blank. -/
theorem Anchored.exists_not_blank {seen : Bool} {cs l : List Char} {ds : List (List Char)}
    (h : Anchored seen cs) (hpieces : cs.splitOn '\r' = l :: ds) (hds : ds ≠ []) :
    seen = true ∨ ∃ c ∈ l, isBlank c = false := by
  induction cs generalizing seen l with
  | nil =>
    cases hpieces
    exact absurd rfl hds
  | cons c cs ih =>
    rw [List.splitOn_cons_eq_if_modifyHead] at hpieces
    by_cases hc : c = '\r'
    · exact .inl (h.1 hc)
    · obtain ⟨piece, pieces, hrest⟩ := List.exists_cons_of_ne_nil (List.splitOn_ne_nil '\r' cs)
      rw [hrest, if_neg (by simpa using hc), List.modifyHead_cons, List.cons.injEq] at hpieces
      obtain ⟨rfl, rfl⟩ := hpieces
      rcases ih h.2 hrest with hseen | ⟨x, hx, hblank⟩
      · split at hseen
        · cases hseen
        · rcases Bool.or_eq_true_iff.mp hseen with hseen | hblank
          · exact .inl hseen
          · exact .inr ⟨c, List.mem_cons_self, by simpa using hblank⟩
      · exact .inr ⟨x, List.mem_cons_of_mem _ hx, hblank⟩

theorem not_mem_of_mem_splitOn {c : Char} {cs l : List Char} (h : l ∈ cs.splitOn c) : c ∉ l := by
  induction cs generalizing l with
  | nil => simp_all
  | cons d cs ih =>
    obtain ⟨first, others, hrest⟩ := List.exists_cons_of_ne_nil (List.splitOn_ne_nil c cs)
    rw [List.splitOn_cons_eq_if_modifyHead, hrest] at h
    rw [hrest] at ih
    split at h
    · rcases List.mem_cons.mp h with rfl | h
      · simp
      · exact ih h
    · rename_i hd
      rw [List.modifyHead_cons] at h
      rcases List.mem_cons.mp h with rfl | h
      · rw [List.mem_cons, not_or]
        exact ⟨fun he => hd (by simp [he]), ih List.mem_cons_self⟩
      · exact ih (List.mem_cons_of_mem _ h)

/-- **Nothing runs on from a blank line.** -/
theorem exists_not_blank_of_mem_paragraphs {text : String} (h : '\r' ∉ text.toList)
    {l : List Char} {ds : List (List Char)} (hmem : l :: ds ∈ paragraphs text) (hds : ds ≠ []) :
    ∃ c ∈ l, isBlank c = false := by
  obtain ⟨line, hline, hpieces⟩ := List.mem_map.mp hmem
  have hfile : Anchored false (runOn true text.toList) := anchored_runOn h (.inr (.inl rfl))
  obtain ⟨first, others, hlines, hfirst, hothers⟩ := hfile.lines
  have hanchored : Anchored false line := by
    rw [hlines] at hline
    rcases List.mem_cons.mp hline with rfl | hline
    · exact hfirst
    · exact hothers line hline
  exact (hanchored.exists_not_blank hpieces hds).resolve_left Bool.false_ne_true

theorem not_mem_of_mem_paragraphs {text : String} {p : List (List Char)} (hp : p ∈ paragraphs text)
    {l : List Char} (hl : l ∈ p) : '\r' ∉ l := by
  obtain ⟨line, -, rfl⟩ := List.mem_map.mp hp
  exact not_mem_of_mem_splitOn hl

theorem ne_nil_of_mem_paragraphs {text : String} {p : List (List Char)}
    (hp : p ∈ paragraphs text) : p ≠ [] := by
  obtain ⟨line, -, rfl⟩ := List.mem_map.mp hp
  exact List.splitOn_ne_nil '\r' line

/-- A line has no more in the name it sets than in itself. -/
theorem mem_of_mem_name {l : List Char} {b : String × String} (h : binding? l = some b) {c : Char}
    (hc : c ∈ b.1.toList) : c ∈ l := by
  obtain ⟨name, value, rfl, -, -, hname⟩ := binding?_eq_some h
  rw [hname, String.toList_ofList] at hc
  exact List.mem_append_left _ (Text.mem_of_mem_trimChars hc)

/-! ## 4. Paragraphs that may be read as one line -/

/-- A paragraph that says the same as one line as line by line. -/
def Harmless (paragraph : List (List Char)) : Prop :=
  (binding? (runTogether paragraph)).toList = paragraph.filterMap binding?

/-- A paragraph of one line is harmless. -/
theorem harmless_singleton (l : List Char) : Harmless [l] := by
  rw [Harmless, runTogether, List.intercalate_singleton]
  cases h : binding? l <;> simp [h]

/-- In what a paragraph sets line by line, no name has a carriage return. -/
theorem not_mem_name {text : String} {p : List (List Char)} (hp : p ∈ paragraphs text)
    {b : String × String} (hb : b ∈ p.filterMap binding?) : '\r' ∉ b.1.toList := by
  obtain ⟨l, hl, hbinding⟩ := List.mem_filterMap.mp hb
  exact fun hmem => not_mem_of_mem_paragraphs hp hl (mem_of_mem_name hbinding hmem)

/-- What a paragraph of a file sets only as one line. -/
theorem of_mem_paragraphs {text : String} (h : '\r' ∉ text.toList) {l : List Char}
    {ds : List (List Char)} (hp : l :: ds ∈ paragraphs text) {b : String × String}
    (hnone : binding? l = none) (hb : binding? (runTogether (l :: ds)) = some b) :
    b.1 ≠ "" ∧ ('\r' ∈ b.1.toList ∨ ∃ d ∈ ds, ∃ value, binding? d = some ("", value)) := by
  have hds : ds ≠ [] := by
    rintro rfl
    rw [runTogether, List.intercalate_singleton, hnone] at hb
    cases hb
  exact of_binding?_runTogether (exists_not_blank_of_mem_paragraphs h hp hds) hnone hb

/-- As one line a paragraph does not set more variables than line by line, if it sets none with
a carriage return in its name. -/
theorem length_binding?_le {text : String} (h : '\r' ∉ text.toList) {p : List (List Char)}
    (hp : p ∈ paragraphs text)
    (hname : ∀ b, binding? (runTogether p) = some b → '\r' ∉ b.1.toList) :
    (binding? (runTogether p)).toList.length ≤ (p.filterMap binding?).length := by
  obtain ⟨l, ds, rfl⟩ := List.exists_cons_of_ne_nil (ne_nil_of_mem_paragraphs hp)
  cases hrun : binding? (runTogether (l :: ds)) with
  | none => exact Nat.zero_le _
  | some b =>
    refine List.length_pos_iff_exists_mem.mpr ?_
    cases hl : binding? l with
    | some b' => exact ⟨b', by simp [hl]⟩
    | none =>
      obtain ⟨d, hd, value, hvalue⟩ :=
        (of_mem_paragraphs h hp hl hrun).2.resolve_left (hname b hrun)
      exact ⟨("", value), List.mem_filterMap.mpr ⟨d, List.mem_cons_of_mem _ hd, hvalue⟩⟩

/-- **A line that runs on and sets a variable does harm.** -/
theorem not_harmless {text : String} (h : '\r' ∉ text.toList) {p : List (List Char)}
    (hp : p ∈ paragraphs text) {d : List Char} (hd : d ∈ p.tail) (hset : binding? d ≠ none) :
    ¬ Harmless p := by
  intro hsame
  obtain ⟨l, ds, rfl⟩ := List.exists_cons_of_ne_nil (ne_nil_of_mem_paragraphs hp)
  obtain ⟨b, hb⟩ := Option.ne_none_iff_exists'.mp hset
  have hmem : b ∈ ds.filterMap binding? := List.mem_filterMap.mpr ⟨d, hd, hb⟩
  have hnone : binding? l = none := by
    by_contra hl
    obtain ⟨b', hb'⟩ := Option.ne_none_iff_exists'.mp hl
    have hlength := congrArg List.length hsame
    rw [List.filterMap_cons_some hb', List.length_cons] at hlength
    have hpos := List.length_pos_of_mem hmem
    have hle : (binding? (runTogether (l :: ds))).toList.length ≤ 1 := by
      cases binding? (runTogether (l :: ds)) <;> simp
    omega
  rw [Harmless, List.filterMap_cons_none hnone] at hsame
  -- so what runs on says one thing, and that is what the paragraph says as one line
  have honly {c : String × String} (hc : c ∈ ds.filterMap binding?) :
      binding? (runTogether (l :: ds)) = some c := by
    rw [← hsame] at hc
    simpa using hc
  obtain ⟨hname, hreturn | ⟨e, he, value, hvalue⟩⟩ := of_mem_paragraphs h hp hnone (honly hmem)
  · exact not_mem_name hp (by rwa [List.filterMap_cons_none hnone]) hreturn
  · have hnameless := honly (List.mem_filterMap.mpr ⟨e, he, hvalue⟩)
    rw [honly hmem] at hnameless
    cases hnameless
    exact hname rfl

/-- **When a paragraph is harmless**: what runs on sets nothing, and the first line says the same
with it as without it. -/
theorem harmless_iff {text : String} (h : '\r' ∉ text.toList) {p : List (List Char)}
    (hp : p ∈ paragraphs text) :
    Harmless p ↔ (∀ l ∈ p.tail, binding? l = none) ∧
      binding? (runTogether p) = p.head?.bind binding? := by
  obtain ⟨l, ds, rfl⟩ := List.exists_cons_of_ne_nil (ne_nil_of_mem_paragraphs hp)
  have hlines (hnone : ∀ d ∈ ds, binding? d = none) :
      (l :: ds).filterMap binding? = (binding? l).toList := by
    have hrest : ds.filterMap binding? = [] := List.filterMap_eq_nil_iff.mpr hnone
    cases hl : binding? l <;> simp [hl, hrest]
  constructor
  · intro hsame
    have hnone : ∀ d ∈ ds, binding? d = none := fun d hd => by
      by_contra hset
      exact not_harmless h hp hd hset hsame
    rw [Harmless, hlines hnone] at hsame
    refine ⟨hnone, ?_⟩
    cases hl : binding? l <;> cases hrun : binding? (runTogether (l :: ds)) <;> simp_all
  · rintro ⟨hnone, hrun⟩
    rw [Harmless, hlines hnone, hrun]
    rfl

/-- Lists put together from parts that are no longer are the same only if all parts are. -/
theorem forall_eq_of_flatMap_eq {α β : Type} {f g : α → List β} {ps : List α}
    (hle : ∀ p ∈ ps, (f p).length ≤ (g p).length) (h : ps.flatMap f = ps.flatMap g) :
    ∀ p ∈ ps, f p = g p := by
  induction ps with
  | nil => simp
  | cons p ps ih =>
    have hrest : (ps.flatMap f).length ≤ (ps.flatMap g).length := by
      rw [List.length_flatMap, List.length_flatMap]
      exact List.sum_le_sum fun q hq => hle q (List.mem_cons_of_mem _ hq)
    have hlength := congrArg List.length h
    simp only [List.flatMap_cons, List.length_append] at hlength
    have hp := hle p List.mem_cons_self
    rw [List.flatMap_cons, List.flatMap_cons] at h
    obtain ⟨hfirst, hothers⟩ := List.append_inj h (by omega)
    rintro q (_ | ⟨_, hq⟩)
    · exact hfirst
    · exact ih (fun r hr => hle r (List.mem_cons_of_mem _ hr)) hothers q hq

/-- **A file is read the same with carriage returns if and only if its paragraphs are
harmless.** -/
theorem settings_crlf_eq_iff {text : String} (h : '\r' ∉ text.toList) :
    settings (crlf text) = settings text ↔ ∀ p ∈ paragraphs text, Harmless p := by
  have htogether : settings (crlf text) =
      (paragraphs text).flatMap fun p => (binding? (runTogether p)).toList := by
    rw [settings_crlf, List.filterMap_eq_flatMap_toList]
  rw [settings_eq_flatMap h]
  constructor
  · intro hsame
    have hname : ∀ p ∈ paragraphs text, ∀ b, binding? (runTogether p) = some b →
        '\r' ∉ b.1.toList := by
      intro p hp b hb
      have hmem : b ∈ settings (crlf text) := by
        rw [settings_crlf]
        exact List.mem_filterMap.mpr ⟨p, hp, hb⟩
      rw [hsame] at hmem
      obtain ⟨q, hq, hbq⟩ := List.mem_flatMap.mp hmem
      exact not_mem_name hq hbq
    rw [htogether] at hsame
    exact forall_eq_of_flatMap_eq (fun p hp => length_binding?_le h hp (hname p hp)) hsame
  · intro hharmless
    rw [htogether]
    exact List.flatMap_congr hharmless

/-! ## 5. Files that only export -/

theorem runOn_append {body : List Char} (h : ∀ c ∈ body, isLineEnd c = false)
    (rest : List Char) : runOn false (body ++ rest) = body ++ runOn false rest := by
  induction body with
  | nil => rfl
  | cons c body ih =>
    have hc : isLineEnd c = false := h c List.mem_cons_self
    have hfeed : c ≠ '\n' := by
      rintro rfl
      cases hc
    rw [List.cons_append, runOn_of_kept (by simp), hc, ih fun d hd => h d (by simp [hd])]
    simp [hfeed]

theorem runOn_exported {bs : Bindings} (hnames : ∀ b ∈ bs, IsName b.1)
    (hvalues : ∀ b ∈ bs, ∀ c ∈ b.2.toList, isLineEnd c = false) :
    runOn true (exported bs).toList = runTogether (bs.map setting) := by
  rw [exported_toList, runTogether]
  induction bs with
  | nil => simp [runOn]
  | cons b bs ih =>
    have hb := hnames b List.mem_cons_self
    have hline := setting_oneLine hb (hvalues b List.mem_cons_self)
    have hexport {d : String × String} (hd : IsName d.1) (rest : List Char) :
        afterExport? (exportWord ++ ' ' :: (setting d ++ rest)) =
          some (setting d ++ rest, false) :=
      afterExport?_export fun c hc => (setting_head hd rest c hc).1
    cases bs with
    | nil =>
      have hdropped := runOn_of_afterExport (hexport hb [])
      rw [runOn_append hline, runOn] at hdropped
      simpa using hdropped
    | cons b' bs =>
      have hb' := hnames b' (List.mem_cons_of_mem _ List.mem_cons_self)
      have hih := ih (fun d hd => hnames d (List.mem_cons_of_mem _ hd))
        (fun d hd => hvalues d (List.mem_cons_of_mem _ hd))
      obtain ⟨more, hmore⟩ := exists_intercalate_cons ['\n'] (exportWord ++ ' ' :: setting b')
        (bs.map fun b => exportWord ++ ' ' :: setting b)
      have hnext : (afterExport? ((exportWord ++ ' ' :: setting b') ++ more)).isSome := by
        rw [List.append_assoc, List.cons_append, hexport hb']
        rfl
      simp only [joined, List.map_cons, List.intercalate_cons_cons] at hih ⊢
      rw [hmore] at hih ⊢
      rw [List.append_assoc, List.append_assoc, List.cons_append,
        runOn_of_afterExport (hexport hb _), runOn_append hline, List.singleton_append,
        runOn_of_kept (by simp), if_pos ⟨rfl, hnext⟩, show isLineEnd '\n' = true from rfl, hih,
        List.append_assoc, List.singleton_append]

/-- **The lines of a file that only exports are one paragraph.** -/
theorem paragraphs_exported {bs : Bindings} (hbs : bs ≠ []) (h : Exportable bs) :
    paragraphs (exported bs) = [bs.map setting] := by
  have hends : ∀ l ∈ bs.map setting, ∀ c ∈ l, isLineEnd c = false := by
    intro l hl
    obtain ⟨b, hb, rfl⟩ := List.mem_map.mp hl
    exact setting_oneLine (h.named b hb) (h.oneLine b hb)
  have hfeed : '\n' ∉ runTogether (bs.map setting) := by
    intro hmem
    rcases mem_of_mem_intercalate hmem with hmem | ⟨l, hl, hmem⟩
    · simp at hmem
    · cases hends l hl _ hmem
  have hreturn : ∀ l ∈ bs.map setting, '\r' ∉ l := by
    intro l hl hmem
    cases hends l hl _ hmem
  rw [paragraphs, runOn_exported h.named h.oneLine, lines_eq_splitOn,
    List.splitOn_eq_singleton hfeed, List.map_singleton, runTogether,
    List.splitOn_intercalate _ hreturn (by simpa using hbs)]

/-- A file that sets one variable at most lacks a required one, and no alias fills it in. -/
theorem missing_read_ne_nil {content : String} (h : (settings content).length ≤ 1) :
    missing (read content) ≠ [] := by
  intro hnone
  have hset {name : String} (hname : name ∈ requiredNames) :
      (value? name (read content)).isSome := by
    have hall := List.filter_eq_nil_iff.mp hnone name hname
    cases hv : value? name (read content) with
    | none => simp [hv] at hall
    | some v => rfl
  have htoken : (value? "OS_AUTH_TOKEN" (read content)).isSome := hset (by decide)
  have hendpoint : (value? "OS_CONTAINER_INFRA_ENDPOINT" (read content)).isSome :=
    hset (by decide)
  rw [read_eq_settings, value?_withAliases] at htoken hendpoint
  match hsettings : settings content, h with
  | [], _ => simp [hsettings, value?] at htoken
  | [b], _ =>
    -- one variable does not have two names
    simp only [hsettings, List.foldl_cons, List.foldl_nil, assign, value?] at htoken hendpoint
    by_cases hname : b.1 = "OS_AUTH_TOKEN"
    · simp [hname] at hendpoint
    · simp [hname] at htoken

/-- **Of a file that only exports, nothing can be configured with carriage returns.** -/
theorem load_exported_crlf {bs : Bindings} (h : Exportable bs) :
    ∃ names, names ≠ [] ∧ load (crlf (exported bs)) = .error names := by
  have hsettings : (settings (crlf (exported bs))).length ≤ 1 := by
    by_cases hbs : bs = []
    · subst hbs
      decide +kernel
    · rw [settings_crlf, paragraphs_exported hbs h]
      exact List.length_filterMap_le _ _
  have hmissing := missing_read_ne_nil hsettings
  exact ⟨_, hmissing, by rw [load, if_neg (by simpa using hmissing)]⟩

end RcFile

open RcFile

/-- **RC files with carriage returns before their line feeds.** A file without carriage returns
is read paragraph by paragraph, and each paragraph line by line; with carriage returns each is
read as one line. What the two say is the same if and only if every paragraph is harmless, and
then they are the same file to everything that reads RC files. A paragraph is harmless if and
only if no line that was exported under another sets anything, and the first line says the same
with these lines as without them. -/
theorem crlf_read_iff {text : String} (h : '\r' ∉ text.toList) :
    settings text = (paragraphs text).flatMap (List.filterMap binding?) ∧
      settings (crlf text) = (paragraphs text).filterMap (fun p => binding? (runTogether p)) ∧
      (settings (crlf text) = settings text ↔ ∀ p ∈ paragraphs text, Harmless p) ∧
      ((∀ p ∈ paragraphs text, Harmless p) →
        read (crlf text) = read text ∧ load (crlf text) = load text ∧
          ofRcFile (crlf text) = ofRcFile text) ∧
      ∀ p ∈ paragraphs text, (Harmless p ↔ (∀ l ∈ p.tail, binding? l = none) ∧
        binding? (runTogether p) = p.head?.bind binding?) := by
  have hiff := settings_crlf_eq_iff h
  refine ⟨settings_eq_flatMap h, settings_crlf text, hiff, fun hharmless => ?_,
    fun p hp => harmless_iff h hp⟩
  have hread : read (crlf text) = read text := by
    rw [read_eq_settings, read_eq_settings, hiff.mpr hharmless]
  have hload : load (crlf text) = load text := by
    rw [load, load, hread]
  exact ⟨hread, hload, by rw [ofRcFile, ofRcFile, hload]⟩

/-- A file with one export, in its first line. -/
theorem first_line_exported :
    let text := "export OS_AUTH_TOKEN=token\nOS_CONTAINER_INFRA_ENDPOINT=https://[::1]:9511/v1\n"
    '\r' ∉ text.toList ∧ (ofRcFile text).isOk = true ∧ ofRcFile (crlf text) = ofRcFile text := by
  intro text
  have htext : '\r' ∉ text.toList := by decide
  have hparagraphs : paragraphs text =
      [["OS_AUTH_TOKEN=token".toList],
        ["OS_CONTAINER_INFRA_ENDPOINT=https://[::1]:9511/v1".toList], [[]]] := by
    decide +kernel
  have hharmless : ∀ p ∈ paragraphs text, Harmless p := by
    simp [hparagraphs, harmless_singleton]
  exact ⟨htext, by decide +kernel, ((crlf_read_iff htext).2.2.2.1 hharmless).2.2⟩

/-- With carriage returns, the second of two exports is read as more of the first. -/
theorem second_export_run_on :
    let text := "export A=1\nexport B=2\n"
    '\r' ∉ text.toList ∧ crlf text = "export A=1\r\nexport B=2\r\n" ∧
      read text = [("A", "1"), ("B", "2")] ∧ read (crlf text) = [("A", "1\rB=2")] ∧
      read (crlf text) ≠ read text := by
  intro text
  have hread : read text = [("A", "1"), ("B", "2")] := by decide +kernel
  have hcrlf : read (crlf text) = [("A", "1\rB=2")] := by decide +kernel
  refine ⟨by decide, by decide, hread, hcrlf, ?_⟩
  rw [hread, hcrlf]
  decide

end Config

end MagnumClient
