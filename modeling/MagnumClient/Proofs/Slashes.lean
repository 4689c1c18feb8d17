/-
MagnumClient.Proofs.Slashes — what joining a path does to slashes.

`Path.shorten` reads a text once and decides about a slash by what it remembers of the text in
front. Two other ways to say what becomes of a text are put beside it here. One goes by the runs
of the text, each as long as can be (`normal`). The other is a substitution: a text is searched
for slashes behind a slash, and they are dropped (`doubledSlashes`). All three are the same
(`shorten_eq_normal`, `run_doubledSlashes`).

The search goes on behind a match, and wherever there is no match it goes on with the next
character. So most places that it gets to are inside a word or a run. `Reached` says which places
these can be, by what stands in front, and is the invariant of the induction. Why a word is never
matched in part is said once, by `ways_word`.

What is shortened stays as it is, and leaves the same to be remembered (`shorten_shorten`). So a
path can be joined in two goes (`join_join`).
-/
import Mathlib.Data.List.SplitBy
import MagnumClient.Proofs.Links

namespace MagnumClient.Path

/-! ## 1. Runs -/

/-- Whether two characters go into one run: both are slashes, or neither is. -/
def together (a b : Char) : Bool := decide (a = '/' ↔ b = '/')

/-- The runs of a text, of slashes and of what is between them, each as long as can be. -/
def runs (cs : List Char) : List (List Char) := cs.splitBy together

/-- Runs put together again behind a character, with one slash for a run of them unless a colon
stands right before it. -/
def normalRuns : Option Char → List (List Char) → List Char
  | _, [] => []
  | before, run :: rest =>
    (if run.head? = some '/' ∧ before ≠ some ':' then ['/'] else run) ++
      normalRuns run.getLast? rest

/-- A text with every run of slashes shortened to one, unless a colon stands right before it. -/
def normal (cs : List Char) : List Char := normalRuns none (runs cs)

/-- A run is of slashes if it begins with one, and has none otherwise. -/
theorem uniform_of_isChain {a : Char} {run : List Char}
    (h : (a :: run).IsChain fun a b => together a b) : ∀ c ∈ a :: run, (c = '/' ↔ a = '/') := by
  have htrans : IsTrans Char fun a b => together a b :=
    ⟨fun a b c hab hbc => decide_eq_true ((of_decide_eq_true hab).trans (of_decide_eq_true hbc))⟩
  rintro c (_ | ⟨_, hc⟩)
  · rfl
  · exact (of_decide_eq_true (h.rel_cons hc)).symm

theorem shorten_slash_slashes {run : List Char} (h : ∀ c ∈ run, c = '/') :
    shorten .slash run = [] := by
  induction run with
  | nil => rfl
  | cons c run ih =>
    obtain ⟨rfl, hrun⟩ := List.forall_mem_cons.mp h
    rw [shorten_slash_slash, ih hrun]

theorem shorten_keptSlash_slashes {run : List Char} (h : ∀ c ∈ run, c = '/') :
    shorten .keptSlash run = run := by
  induction run with
  | nil => rfl
  | cons c run ih =>
    obtain ⟨rfl, hrun⟩ := List.forall_mem_cons.mp h
    rw [shorten_keptSlash_slash, ih hrun]

/-- What has no slashes stays as it is. -/
theorem shorten_eq_self_of_forall_ne (b : Before) {run : List Char} (h : ∀ c ∈ run, c ≠ '/') :
    shorten b run = run := by
  induction run generalizing b with
  | nil => exact shorten_nil b
  | cons c run ih =>
    obtain ⟨hc, hrun⟩ := List.forall_mem_cons.mp h
    rw [shorten_cons_of_not run fun hslash => hc hslash.2, ih _ hrun]

theorem beforeNext_cons (b : Before) (c : Char) (cs : List Char) :
    beforeNext b (c :: cs) = beforeNext (beforeNext b [c]) cs := by
  by_cases hs : c = '/'
  · cases b <;> simp [beforeNext, hs]
  · by_cases hc : c = ':' <;> simp [beforeNext, hs, hc]

/-- What is remembered of a text that does not end in a slash: whether its last character is a
colon. -/
def Behind (b : Before) (last : Option Char) : Prop :=
  b = .colon ∧ last = some ':' ∨ b = .text ∧ last ≠ some ':'

theorem behind_beforeNext (b : Before) {run : List Char} (hne : run ≠ [])
    (h : ∀ c ∈ run, c ≠ '/') : Behind (beforeNext b run) run.getLast? := by
  induction run generalizing b with
  | nil => exact absurd rfl hne
  | cons c run ih =>
    obtain ⟨hc, hrun⟩ := List.forall_mem_cons.mp h
    cases run with
    | nil => by_cases hcolon : c = ':' <;> simp [Behind, beforeNext, hc, hcolon]
    | cons d run =>
      rw [beforeNext_cons, List.getLast?_cons_cons]
      exact ih _ (List.cons_ne_nil d run) hrun

theorem shorten_slashes {b : Before} {last : Option Char} {run : List Char} (hb : Behind b last)
    (h : ∀ c ∈ '/' :: run, c = '/') :
    shorten b ('/' :: run) = if last ≠ some ':' then ['/'] else '/' :: run := by
  have hrun : ∀ c ∈ run, c = '/' := (List.forall_mem_cons.mp h).2
  obtain ⟨rfl, hlast⟩ | ⟨rfl, hlast⟩ := hb
  · rw [shorten_colon_slash, shorten_keptSlash_slashes hrun, if_neg (not_not_intro hlast)]
  · rw [shorten_text_slash, shorten_slash_slashes hrun, if_pos hlast]

/-- Runs are shortened one by one. -/
theorem shorten_flatten {rs : List (List Char)} (hne : [] ∉ rs)
    (hrun : ∀ run ∈ rs, run.IsChain fun a b => together a b)
    (hapart : rs.IsChain fun a b => ∃ ha hb, together (a.getLast ha) (b.head hb) = false)
    {b : Before} {last : Option Char}
    (hb : ∀ run ∈ rs.head?, run.head? = some '/' → Behind b last) :
    shorten b rs.flatten = normalRuns last rs := by
  induction rs generalizing b last with
  | nil => exact shorten_nil b
  | cons run rest ih =>
    obtain _ | ⟨a, run⟩ := run
    · exact absurd List.mem_cons_self hne
    have huniform := uniform_of_isChain (hrun _ List.mem_cons_self)
    rw [List.flatten_cons, shorten_append, normalRuns]
    refine congrArg₂ (· ++ ·) ?_ (ih (fun h => hne (List.mem_cons_of_mem _ h))
      (fun r hr => hrun r (List.mem_cons_of_mem _ hr)) hapart.tail fun next hnext hslash => ?_)
    · by_cases ha : a = '/'
      · subst ha
        rw [shorten_slashes (hb _ rfl rfl) fun c hc => (huniform c hc).mpr rfl]
        simp
      · rw [shorten_eq_self_of_forall_ne b fun c hc hslash => ha ((huniform c hc).mp hslash)]
        simp [ha]
    · -- the run in front of a run of slashes is none of slashes
      obtain ⟨hlast, hhead, happart⟩ := (List.isChain_cons.mp hapart).1 next hnext
      have hnextSlash : next.head hhead = '/' :=
        Option.some.inj ((List.head?_eq_some_head hhead).symm.trans hslash)
      have hlastSlash : (a :: run).getLast hlast ≠ '/' := by
        simpa [together, hnextSlash] using happart
      have ha : a ≠ '/' := fun ha => hlastSlash ((huniform _ (List.getLast_mem hlast)).mpr ha)
      exact behind_beforeNext b hlast fun c hc hc' => ha ((huniform c hc).mp hc')

/-- **Shortening goes by runs.** -/
theorem shorten_eq_normal (cs : List Char) : shorten .text cs = normal cs :=
  calc shorten .text cs = shorten .text (runs cs).flatten := by rw [runs, List.flatten_splitBy]
    _ = normal cs := shorten_flatten (List.nil_notMem_splitBy together cs)
      (fun _ h => List.isChain_of_mem_splitBy h) (List.isChain_getLast_head_splitBy together cs)
      fun _ _ _ => .inr ⟨rfl, by simp⟩

/-! ## 2. Substitutions -/

/-- What a text is searched for. -/
inductive Expression where
  /-- The beginning of the text. -/
  | start
  /-- A character of a class. -/
  | unit (p : Char → Bool)
  /-- Characters of a class, one or more, as many as can be. -/
  | many (p : Char → Bool)
  /-- One expression behind another. -/
  | next (a b : Expression)
  /-- Either expression, the first if it can be. -/
  | either (a b : Expression)

/-- The ways to match a character of a class: what is matched, and what is left of the text. -/
def unitWays (p : Char → Bool) : List Char → List (List Char × List Char)
  | [] => []
  | c :: cs => if p c then [([c], cs)] else []

/-- The ways to match characters of a class, the longest first. -/
def manyWays (p : Char → Bool) : List Char → List (List Char × List Char)
  | [] => []
  | c :: cs =>
    if p c then (manyWays p cs).map (fun w => (c :: w.1, w.2)) ++ [([c], cs)] else []

/-- The ways to match an expression right here, the preferred first. -/
def Expression.ways : Expression → Bool → List Char → List (List Char × List Char)
  | start, atStart, cs => if atStart then [([], cs)] else []
  | unit p, _, cs => unitWays p cs
  | many p, _, cs => manyWays p cs
  | next a b, atStart, cs => (a.ways atStart cs).flatMap fun w =>
      (b.ways (atStart && w.1.isEmpty) w.2).map fun v => (w.1 ++ v.1, v.2)
  | either a b, atStart, cs => a.ways atStart cs ++ b.ways atStart cs

/-- A substitution: of what two expressions match, one behind the other, only what the first
matches is kept. -/
structure Substitution where
  kept : Expression
  dropped : Expression

namespace Substitution

/-- The preferred match right here: what is kept of it, and what is left of the text behind it. -/
def match? (s : Substitution) (atStart : Bool) (cs : List Char) : Option (List Char × List Char) :=
  ((s.kept.ways atStart cs).flatMap fun w =>
    (s.dropped.ways (atStart && w.1.isEmpty) w.2).map fun v => (w.1, v.2)).head?

/-- Substitutes everywhere: at the first place where there is a match, and then on behind the
match. A match of nothing is stepped over. -/
def run (s : Substitution) (atStart : Bool) : List Char → List Char
  | [] => []
  | c :: cs =>
    match s.match? atStart (c :: cs) with
    | none => c :: run s false cs
    | some (kept, left) =>
      if left.length ≤ cs.length then kept ++ run s false left else c :: run s false cs
termination_by cs => cs.length
decreasing_by
  all_goals simp only [List.length_cons]
  all_goals omega

end Substitution

section

variable {p : Char → Bool} {word after : List Char}

theorem manyWays_of_head (hafter : ∀ c ∈ after.head?, p c = false) : manyWays p after = [] := by
  cases after with
  | nil => rfl
  | cons c cs => simp [manyWays, hafter c rfl]

theorem head_dropWhile (cs : List Char) : ∀ c ∈ (cs.dropWhile p).head?, p c = false := by
  intro c hc
  have h := List.head?_dropWhile_not p cs
  rwa [Option.mem_def.mp hc] at h

/-- The preferred way takes all there is. -/
theorem head?_manyWays (hword : ∀ c ∈ word, p c = true) (hafter : ∀ c ∈ after.head?, p c = false) :
    (manyWays p (word ++ after)).head? = if word = [] then none else some (word, after) := by
  induction word with
  | nil => rw [List.nil_append, manyWays_of_head hafter, if_pos rfl, List.head?_nil]
  | cons c word ih =>
    obtain ⟨hc, hword⟩ := List.forall_mem_cons.mp hword
    rw [List.cons_append, manyWays, if_pos hc, List.head?_append, List.head?_map, ih hword]
    by_cases hne : word = [] <;> simp [hne]

end

/-! ## 3. Doubled slashes -/

/-- A slash. -/
def isSlash (c : Char) : Bool := c == '/'

/-- Neither a slash nor a colon. -/
def isPlain (c : Char) : Bool := c != ':' && c != '/'

/-- Drops slashes behind a slash that begins the text or has a word in front of it. As an
expression it is `(^/|[^:/]+/)/+`, of which the group is kept. -/
def doubledSlashes : Substitution where
  kept := .either (.next .start (.unit isSlash)) (.next (.many isPlain) (.unit isSlash))
  dropped := .many isSlash

theorem isPlain_iff (c : Char) : isPlain c = true ↔ c ≠ '/' ∧ c ≠ ':' := by
  simp [isPlain, and_comm]

theorem unitWays_of_ne {c : Char} (hc : c ≠ '/') (cs : List Char) :
    unitWays isSlash (c :: cs) = [] := by
  simp [unitWays, isSlash, hc]

/-- A word and the slash behind it are matched in one way only: a part of the word has no slash
behind it. -/
theorem ways_word {word after : List Char} (hword : ∀ c ∈ word, isPlain c = true)
    (hafter : ∀ c ∈ after.head?, isPlain c = false) :
    ((manyWays isPlain (word ++ after)).flatMap fun w =>
      (unitWays isSlash w.2).map fun v => (w.1 ++ v.1, v.2)) =
      if word = [] then [] else (unitWays isSlash after).map fun v => (word ++ v.1, v.2) := by
  induction word with
  | nil => simp [manyWays_of_head hafter]
  | cons c word ih =>
    obtain ⟨hc, hword⟩ := List.forall_mem_cons.mp hword
    have hlonger : ((manyWays isPlain (word ++ after)).map fun w => (c :: w.1, w.2)).flatMap
        (fun w => (unitWays isSlash w.2).map fun v => (w.1 ++ v.1, v.2)) =
        if word = [] then [] else
          (unitWays isSlash after).map fun v => (c :: word ++ v.1, v.2) := by
      have := congrArg (List.map fun w => (c :: w.1, w.2)) (ih hword)
      rw [List.map_flatMap] at this
      simpa [List.flatMap_map, Function.comp_def, apply_ite] using this
    rw [List.cons_append, manyWays, if_pos hc, List.flatMap_append, hlonger]
    cases word with
    | nil => simp
    | cons d word =>
      have hd : d ≠ '/' := ((isPlain_iff d).mp (hword d List.mem_cons_self)).1
      simp [unitWays_of_ne hd]

/-- What is kept here: at the beginning of the text a slash, and anywhere a word and a slash. -/
theorem ways_kept (atStart : Bool) (cs : List Char) :
    doubledSlashes.kept.ways atStart cs =
      (if atStart then unitWays isSlash cs else []) ++
        (manyWays isPlain cs).flatMap fun w =>
          (unitWays isSlash w.2).map fun v => (w.1 ++ v.1, v.2) := by
  cases atStart <;> simp [doubledSlashes, Expression.ways]

theorem ways_kept_of_not_isPlain {c : Char} (hc : isPlain c = false) (cs : List Char) :
    doubledSlashes.kept.ways false (c :: cs) = [] := by
  rw [ways_kept, manyWays_of_head (by simpa using hc)]
  rfl

/-- Where a word begins, only the whole word can be kept, and the slash behind it. -/
theorem ways_kept_of_isPlain {c : Char} (hc : isPlain c = true) (atStart : Bool)
    (cs : List Char) :
    doubledSlashes.kept.ways atStart (c :: cs) =
      (unitWays isSlash ((c :: cs).dropWhile isPlain)).map
        fun v => ((c :: cs).takeWhile isPlain ++ v.1, v.2) := by
  have hword : ∀ d ∈ (c :: cs).takeWhile isPlain, isPlain d = true :=
    fun d hd => List.mem_takeWhile_imp hd
  have hne : (c :: cs).takeWhile isPlain ≠ [] := by simp [hc]
  have hone := ways_word hword (head_dropWhile (c :: cs))
  rw [List.takeWhile_append_dropWhile, if_neg hne] at hone
  rw [ways_kept, hone, unitWays_of_ne ((isPlain_iff c).mp hc).1, ite_self, List.nil_append]

/-- Where one thing can be kept, there is a match iff slashes follow it, and then all of them are
dropped. -/
theorem match?_of_one {atStart : Bool} {cs kept left : List Char}
    (h : doubledSlashes.kept.ways atStart cs = [(kept, left)]) :
    doubledSlashes.match? atStart cs =
      if left.head? = some '/' then some (kept, left.dropWhile isSlash) else none := by
  have hways : (manyWays isSlash (left.takeWhile isSlash ++ left.dropWhile isSlash)).head? = _ :=
    head?_manyWays (fun c hc => List.mem_takeWhile_imp hc) (head_dropWhile left)
  rw [List.takeWhile_append_dropWhile] at hways
  have htake : left.takeWhile isSlash = [] ↔ left.head? ≠ some '/' := by
    cases left with
    | nil => simp
    | cons c left => simp [List.takeWhile_cons, isSlash]
  have hdropped : doubledSlashes.match? atStart cs =
      ((manyWays isSlash left).head?).map fun v => (kept, v.2) := by
    rw [Substitution.match?, h, List.flatMap_singleton, List.head?_map]
    rfl
  rw [hdropped, hways]
  by_cases hslash : left.head? = some '/'
  · rw [if_neg (fun hnil => htake.mp hnil hslash), if_pos hslash]
    rfl
  · rw [if_pos (htake.mpr hslash), if_neg hslash]
    rfl

theorem run_of_none {atStart : Bool} {c : Char} {cs : List Char}
    (h : doubledSlashes.kept.ways atStart (c :: cs) = []) :
    doubledSlashes.run atStart (c :: cs) = c :: doubledSlashes.run false cs := by
  have hmatch : doubledSlashes.match? atStart (c :: cs) = none := by
    rw [Substitution.match?, h]
    rfl
  rw [Substitution.run, hmatch]

theorem run_of_one {atStart : Bool} {c : Char} {cs kept left : List Char}
    (h : doubledSlashes.kept.ways atStart (c :: cs) = [(kept, left)])
    (hleft : left.length ≤ cs.length) :
    doubledSlashes.run atStart (c :: cs) =
      if left.head? = some '/' then kept ++ doubledSlashes.run false (left.dropWhile isSlash)
      else c :: doubledSlashes.run false cs := by
  have hdrop : (left.dropWhile isSlash).length ≤ cs.length :=
    (List.dropWhile_sublist isSlash).length_le.trans hleft
  rw [Substitution.run, match?_of_one h]
  by_cases hslash : left.head? = some '/'
  · rw [if_pos hslash, if_pos hslash]
    exact if_pos hdrop
  · rw [if_neg hslash, if_neg hslash]

/-- Where a word begins: if a run of slashes stands behind it, the run is shortened and the search
goes on behind that; if not, there is no match here. -/
theorem run_word {c : Char} (hc : isPlain c = true) (atStart : Bool) (cs : List Char) :
    (∃ word more, word ≠ [] ∧ (∀ d ∈ word, isPlain d = true) ∧
      c :: cs = word ++ '/' :: '/' :: more ∧ doubledSlashes.run atStart (c :: cs) =
        word ++ '/' :: doubledSlashes.run false (more.dropWhile isSlash)) ∨
    ¬ ['/', '/'] <+: cs ∧
      doubledSlashes.run atStart (c :: cs) = c :: doubledSlashes.run false cs := by
  have hsplit := List.takeWhile_append_dropWhile (p := isPlain) (l := c :: cs)
  have hword : ∀ d ∈ (c :: cs).takeWhile isPlain, isPlain d = true :=
    fun d hd => List.mem_takeWhile_imp hd
  have hne : (c :: cs).takeWhile isPlain ≠ [] := by simp [hc]
  -- slashes right behind the first character are what comes behind the word
  have hnone : ¬ ['/', '/'] <+: (c :: cs).dropWhile isPlain → ¬ ['/', '/'] <+: cs := by
    rintro h ⟨more, rfl⟩
    refine h ?_
    rw [List.dropWhile_cons_of_pos hc]
    exact ⟨more, rfl⟩
  have hways := ways_kept_of_isPlain hc atStart cs
  generalize (c :: cs).takeWhile isPlain = word at *
  generalize (c :: cs).dropWhile isPlain = after at *
  obtain _ | ⟨d, left⟩ := after
  · exact .inr ⟨hnone (by simp), run_of_none hways⟩
  by_cases hd : d = '/'
  · subst hd
    have hleft : left.length ≤ cs.length := by
      have hlength := congrArg List.length hsplit
      have hpos := List.length_pos_iff.mpr hne
      simp only [List.length_append, List.length_cons] at hlength
      omega
    rw [run_of_one hways hleft]
    by_cases hslash : left.head? = some '/'
    · obtain ⟨more, rfl⟩ := List.head?_eq_some_iff.mp hslash
      refine .inl ⟨word, more, hne, hword, hsplit.symm, ?_⟩
      rw [if_pos hslash, List.dropWhile_cons_of_pos rfl, List.append_assoc]
      rfl
    · refine .inr ⟨hnone ?_, if_neg hslash⟩
      rintro ⟨more, hmore⟩
      obtain rfl := (List.cons.inj hmore).2
      exact hslash rfl
  · refine .inr ⟨hnone ?_, run_of_none ?_⟩
    · rintro ⟨more, hmore⟩
      exact hd (List.cons.inj hmore).1.symm
    · rw [hways, unitWays_of_ne hd]
      rfl

theorem shorten_slash_dropWhile (cs : List Char) :
    shorten .slash (cs.dropWhile isSlash) = shorten .slash cs := by
  induction cs with
  | nil => rfl
  | cons c cs ih =>
    by_cases hc : c = '/'
    · subst hc
      rw [List.dropWhile_cons_of_pos rfl, ih, shorten_slash_slash]
    · rw [List.dropWhile_cons_of_neg (by simpa [isSlash] using hc)]

theorem shorten_word (b : Before) {word : List Char} (hne : word ≠ [])
    (hword : ∀ d ∈ word, isPlain d = true) (more : List Char) :
    shorten b (word ++ '/' :: '/' :: more) =
      word ++ '/' :: shorten .slash (more.dropWhile isSlash) := by
  have hslash : ∀ d ∈ word, d ≠ '/' := fun d hd => ((isPlain_iff d).mp (hword d hd)).1
  have hbefore : beforeNext b word = .text := by
    obtain ⟨-, hlast⟩ | ⟨htext, -⟩ := behind_beforeNext b hne hslash
    · exact absurd rfl ((isPlain_iff ':').mp (hword ':' (List.mem_of_getLast? hlast))).2
    · exact htext
  rw [shorten_append, shorten_eq_self_of_forall_ne b hslash, hbefore, shorten_text_slash,
    shorten_slash_slash, shorten_slash_dropWhile]

/-- Where the search can get, behind the beginning of the text: a run of slashes that is to be
shortened does not go on here, nor does one begin here behind other text. -/
def Reached : Before → List Char → Prop
  | .text, cs => ¬ ['/', '/'] <+: cs
  | .slash, cs => cs.head? ≠ some '/'
  | _, _ => True

theorem reached_dropWhile (cs : List Char) : Reached .slash (cs.dropWhile isSlash) := by
  intro h
  simpa [isSlash] using head_dropWhile (p := isSlash) cs '/' h

/-- Behind the beginning, substituting is shortening. -/
theorem run_eq_shorten {b : Before} (cs : List Char) (h : Reached b cs) :
    doubledSlashes.run false cs = shorten b cs := by
  induction hn : cs.length using Nat.strong_induction_on generalizing b cs with
  | _ n ih =>
    obtain _ | ⟨c, cs⟩ := cs
    · rw [shorten_nil, Substitution.run]
    have hcs : cs.length < n := by
      rw [← hn]
      exact Nat.lt_succ_self _
    cases hc : isPlain c with
    | true =>
      obtain ⟨hslash, hcolon⟩ := (isPlain_iff c).mp hc
      obtain ⟨word, more, hne, hword, hsplit, hrun⟩ | ⟨hnone, hrun⟩ := run_word hc false cs
      · have hmore : (more.dropWhile isSlash).length < n := by
          have hlength := congrArg List.length hsplit
          have hdrop := (List.dropWhile_sublist (l := more) isSlash).length_le
          rw [hn, List.length_append, List.length_cons, List.length_cons] at hlength
          omega
        rw [hrun, hsplit, shorten_word b hne hword more, ih _ hmore _ (reached_dropWhile more) rfl]
      · rw [hrun, shorten_text b cs hslash hcolon, ih _ hcs (b := .text) cs hnone rfl]
    | false =>
      rw [run_of_none (ways_kept_of_not_isPlain hc cs)]
      by_cases hslash : c = '/'
      · subst hslash
        cases b with
        | slash => exact absurd rfl h
        | text =>
          have hone : Reached .slash cs := by
            intro hhead
            obtain ⟨more, rfl⟩ := List.head?_eq_some_iff.mp hhead
            exact h ⟨more, rfl⟩
          rw [shorten_text_slash, ih _ hcs cs hone rfl]
        | colon => rw [shorten_colon_slash, ih _ hcs (b := .keptSlash) cs trivial rfl]
        | keptSlash => rw [shorten_keptSlash_slash, ih _ hcs (b := .keptSlash) cs trivial rfl]
      · obtain rfl : c = ':' := by
          by_contra hcolon
          exact absurd ((isPlain_iff c).mpr ⟨hslash, hcolon⟩) (by simp [hc])
        rw [shorten_colon, ih _ hcs (b := .colon) cs trivial rfl]

/-- The beginning of the text matters to the search only if a slash stands there. -/
theorem run_true_of_ne {c : Char} (hc : c ≠ '/') (cs : List Char) :
    doubledSlashes.run true (c :: cs) = doubledSlashes.run false (c :: cs) := by
  have hways : doubledSlashes.kept.ways true (c :: cs) =
      doubledSlashes.kept.ways false (c :: cs) := by
    rw [ways_kept, ways_kept, unitWays_of_ne hc]
    rfl
  have hmatch : doubledSlashes.match? true (c :: cs) = doubledSlashes.match? false (c :: cs) := by
    rw [Substitution.match?, Substitution.match?, hways]
    rfl
  rw [Substitution.run, Substitution.run, hmatch]

/-- **Substituting is shortening.** -/
theorem run_doubledSlashes (cs : List Char) : doubledSlashes.run true cs = shorten .text cs := by
  obtain _ | ⟨c, cs⟩ := cs
  · rw [shorten_nil, Substitution.run]
  by_cases hc : c = '/'
  · subst hc
    have hways : doubledSlashes.kept.ways true ('/' :: cs) = [(['/'], cs)] := by
      rw [ways_kept, manyWays_of_head (by simp [isPlain])]
      rfl
    rw [run_of_one hways le_rfl, shorten_text_slash]
    split_ifs with hslash
    · rw [run_eq_shorten _ (reached_dropWhile cs), shorten_slash_dropWhile]
      rfl
    · rw [run_eq_shorten (b := .slash) cs hslash]
  · have hnone : Reached .text (c :: cs) := by
      rintro ⟨more, hmore⟩
      exact hc (List.cons.inj hmore).1.symm
    rw [run_true_of_ne hc, run_eq_shorten _ hnone]

/-! ## 4. Joining -/

/-- What is shortened already stays as it is, and what comes behind it is shortened as it would be
behind the text itself. -/
theorem shorten_shorten (b : Before) (cs : List Char) :
    shorten b (shorten b cs) = shorten b cs ∧ beforeNext b (shorten b cs) = beforeNext b cs := by
  induction cs generalizing b with
  | nil => exact ⟨by rw [shorten_nil, shorten_nil], by rw [shorten_nil]⟩
  | cons c cs ih =>
    by_cases hdropped : b = .slash ∧ c = '/'
    · obtain ⟨rfl, rfl⟩ := hdropped
      exact ih .slash
    · obtain ⟨hshorten, hbefore⟩ := ih (beforeNext b [c])
      rw [shorten_cons_of_not cs hdropped, shorten_cons_of_not _ hdropped, hshorten,
        beforeNext_cons b c cs, ← hbefore, ← beforeNext_cons]
      exact ⟨rfl, rfl⟩

/-- The segments of some parts, without the empty ones. -/
def pieces (parts : List Part) : List (List Char) :=
  ((parts.flatMap Part.texts).filter fun t => t ≠ "").map String.toList

/-- The segments of some parts in one text, with a slash between any two. -/
def written (parts : List Part) : List Char := ['/'].intercalate (pieces parts)

theorem toList_join_eq (parts : List Part) :
    (join parts).toList = shorten .text (written parts) := by
  have hsegments : segmentsOf parts = (parts.flatMap Part.texts).filter fun t => t ≠ "" :=
    List.filter_congr fun t _ => by
      rw [Bool.eq_iff_iff]
      simp
  rw [join, String.toList_ofList, String.toList_intercalate, hsegments]
  rfl

theorem intercalate_cons (t : List Char) (ts : List (List Char)) :
    ['/'].intercalate (t :: ts) = t ++ ts.flatMap fun u => '/' :: u := by
  induction ts generalizing t with
  | nil => simp
  | cons u ts ih => simp [List.intercalate_cons_cons, ih u]

theorem pieces_append (xs ys : List Part) : pieces (xs ++ ys) = pieces xs ++ pieces ys := by
  simp [pieces]

theorem ne_nil_of_mem_pieces {parts : List Part} {t : List Char} (h : t ∈ pieces parts) :
    t ≠ [] := by
  obtain ⟨s, hs, rfl⟩ := List.mem_map.mp h
  simpa using (List.mem_filter.mp hs).2

theorem pieces_segment_empty (ys : List Part) : pieces (.segment "" :: ys) = pieces ys := by
  simp [pieces, Part.texts]

theorem pieces_segment {text : String} (h : text ≠ "") (ys : List Part) :
    pieces (.segment text :: ys) = text.toList :: pieces ys := by
  simp [pieces, Part.texts, h]

/-- A path can be joined in two goes. -/
theorem join_join (xs ys : List Part) : join (.segment (join xs) :: ys) = join (xs ++ ys) := by
  have hxs := toList_join_eq xs
  rw [← String.toList_inj, toList_join_eq, toList_join_eq]
  cases hpieces : pieces xs with
  | nil =>
    have hempty : join xs = "" := by
      rw [← String.toList_inj, hxs, written, hpieces]
      rfl
    rw [written, written, hempty, pieces_segment_empty, pieces_append, hpieces, List.nil_append]
  | cons t ts =>
    have hfront : written xs = t ++ ts.flatMap fun u => '/' :: u := by
      rw [written, hpieces, intercalate_cons]
    have hboth : written (xs ++ ys) = written xs ++ (pieces ys).flatMap fun u => '/' :: u := by
      rw [hfront, written, pieces_append, hpieces, List.cons_append, intercalate_cons,
        List.flatMap_append, List.append_assoc]
    have hne : join xs ≠ "" := by
      intro hempty
      obtain ⟨c, cs, rfl⟩ := List.exists_cons_of_ne_nil
        (ne_nil_of_mem_pieces (hpieces ▸ List.mem_cons_self : t ∈ pieces xs))
      rw [hempty, hfront, List.cons_append, shorten_cons_of_not _ (by simp)] at hxs
      cases hxs
    obtain ⟨hshorten, hbefore⟩ := shorten_shorten .text (written xs)
    rw [hboth, written, pieces_segment hne, intercalate_cons, hxs, shorten_append, hshorten,
      hbefore, shorten_append]

/-- **Joining is normalizing slashes.** Parts are joined by writing their segments that are not
empty with slashes in between, and shortening every run of slashes to one, but a run with a colon
right before it: that is what dropping doubled slashes makes of the text. Characters go nowhere
and none come, but slashes next to a slash; none that is not a slash is dropped. So it does not
matter whether the first parts have been joined already, and to join a path once more changes
nothing. -/
theorem join_normalizes_slashes (xs ys : List Part) :
    (join xs).toList = normal (written xs) ∧
      (join xs).toList = doubledSlashes.run true (written xs) ∧
      Shortened (join xs).toList (written xs) ∧
      (join xs).toList.filter (· != '/') = (written xs).filter (· != '/') ∧
      join (.segment (join xs) :: ys) = join (xs ++ ys) ∧
      join [.segment (join xs)] = join xs := by
  have hjoin := toList_join_eq xs
  refine ⟨?_, ?_, ?_, ?_, join_join xs ys, ?_⟩
  · rw [hjoin, shorten_eq_normal]
  · rw [hjoin, run_doubledSlashes]
  · rw [hjoin]
    exact (shortened_shorten _).1 .text (by decide)
  · rw [hjoin, filter_shorten]
  · rw [join_join, List.append_nil]

example : join [.segment "https://host//v1/", .segments ["", "/clusters"], .absent] =
    "https://host/v1/clusters" := by decide

end MagnumClient.Path
