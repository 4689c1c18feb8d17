/-
MagnumClient.Proofs.Links — when a link is followed to the letter.

The URL of a page is its link, joined as a path is. Joining shortens runs of slashes, and a
link is a whole URL, in which runs can stand that mean something: in its path, or in its
query. A link is followed to the letter iff it has no such run (`Path.join_link_eq_iff`),
but one right behind a colon, which is kept.

`shorten_eq_self_iff` is by induction on the text. A run begins in one place and is
shortened in another, so the statement carries what stands in front.
-/
import MagnumClient.Proofs.Origin

namespace MagnumClient

namespace Path

/-! ## 1. Doubled slashes -/

/-- A text has a run of two slashes or more that does not stand right behind a colon. -/
def Doubled (text : String) : Prop :=
  ∃ front back, text.toList = front ++ '/' :: '/' :: back ∧
    ∀ c, front.getLast? = some c → c ≠ '/' ∧ c ≠ ':'

/-- The same of what is read behind something else. -/
def DoubledBehind (b : Before) (cs : List Char) : Prop :=
  ∃ front back, cs = front ++ '/' :: '/' :: back ∧ (front = [] → b = .text) ∧
    ∀ c, front.getLast? = some c → c ≠ '/' ∧ c ≠ ':'

theorem doubledBehind_text_iff (text : String) :
    DoubledBehind .text text.toList ↔ Doubled text := by
  simp [DoubledBehind, Doubled]

theorem beforeNext_eq_text_iff (b : Before) (c : Char) :
    beforeNext b [c] = .text ↔ c ≠ '/' ∧ c ≠ ':' := by
  by_cases hs : c = '/'
  · cases b <;> simp [beforeNext, hs]
  · by_cases hc : c = ':' <;> simp [beforeNext, hs, hc]

theorem beforeNext_eq_slash_iff (b : Before) (c : Char) :
    beforeNext b [c] = .slash ↔ c = '/' ∧ (b = .text ∨ b = .slash) := by
  by_cases hs : c = '/'
  · cases b <;> simp [beforeNext, hs]
  · by_cases hc : c = ':' <;> simp [beforeNext, hs, hc]

theorem not_doubledBehind_nil (b : Before) : ¬ DoubledBehind b [] := by
  rintro ⟨front, back, h, -⟩
  simp at h

/-- A doubled slash is in front, or behind the first character. -/
theorem doubledBehind_cons_iff (b : Before) (c : Char) (rest : List Char) :
    DoubledBehind b (c :: rest) ↔
      (b = .text ∧ c = '/' ∧ rest.head? = some '/') ∨ DoubledBehind (beforeNext b [c]) rest := by
  constructor
  · rintro ⟨_ | ⟨d, front⟩, back, h, hb, hlast⟩
    · obtain ⟨rfl, rfl⟩ := List.cons.inj h
      exact .inl ⟨hb rfl, rfl, rfl⟩
    · obtain ⟨rfl, rfl⟩ := List.cons.inj h
      refine .inr ⟨front, back, rfl, fun hnil => ?_, fun e he => hlast e ?_⟩
      · exact (beforeNext_eq_text_iff b c).mpr (hlast c (by rw [hnil]; rfl))
      · rw [List.getLast?_cons, he]
        rfl
  · rintro (⟨hb, rfl, hrest⟩ | ⟨front, back, rfl, hb, hlast⟩)
    · obtain ⟨back, rfl⟩ : ∃ back, rest = '/' :: back := by
        cases rest with
        | nil => cases hrest
        | cons d back => exact ⟨back, by rw [Option.some.inj hrest]⟩
      exact ⟨[], back, rfl, fun _ => hb, by simp⟩
    · refine ⟨c :: front, back, rfl, by simp, fun e he => ?_⟩
      cases front with
      | nil =>
        obtain rfl : c = e := by simpa using he
        exact (beforeNext_eq_text_iff b c).mp (hb rfl)
      | cons d front => exact hlast e (by simpa using he)

/-! ## 2. What is shortened -/

theorem length_shorten_le (b : Before) (cs : List Char) :
    (shorten b cs).length ≤ cs.length := by
  induction cs generalizing b with
  | nil => simp
  | cons c rest ih =>
    have h := shorten_append b [c] rest
    rw [List.singleton_append] at h
    have hfirst : (shorten b [c]).length ≤ 1 := by
      cases b <;> simp only [shorten] <;> split <;> simp
    rw [h, List.length_append, List.length_cons]
    have := ih (beforeNext b [c])
    omega

/-- A character goes where it is a slash of a run that is shortened, and stays otherwise. -/
theorem shorten_cons_of_not {b : Before} {c : Char} (rest : List Char)
    (h : ¬ (b = .slash ∧ c = '/')) :
    shorten b (c :: rest) = c :: shorten (beforeNext b [c]) rest := by
  have hfirst : shorten b [c] = [c] := by
    by_cases hs : c = '/'
    · subst hs
      cases b <;> simp_all
    · by_cases hc : c = ':' <;> simp [shorten, hs, hc]
  have happend := shorten_append b [c] rest
  rwa [List.singleton_append, hfirst, List.singleton_append] at happend

/-- A text stays as it is iff it has no slash that is dropped: neither in front nor in a run
further behind. -/
theorem shorten_eq_self_iff (b : Before) (cs : List Char) :
    shorten b cs = cs ↔ ¬ (b = .slash ∧ cs.head? = some '/') ∧ ¬ DoubledBehind b cs := by
  induction cs generalizing b with
  | nil => simp [not_doubledBehind_nil]
  | cons c rest ih =>
    by_cases h : b = .slash ∧ c = '/'
    · obtain ⟨rfl, rfl⟩ := h
      refine iff_of_false (fun heq => ?_) fun hno => hno.1 ⟨rfl, rfl⟩
      have hlength := length_shorten_le .slash rest
      rw [shorten_slash_slash] at heq
      rw [heq, List.length_cons] at hlength
      omega
    · rw [shorten_cons_of_not rest h, List.cons.injEq, ih, beforeNext_eq_slash_iff,
        doubledBehind_cons_iff, List.head?_cons, Option.some.injEq]
      -- both sides ask for the same slash after this one
      have hslash : c = '/' ∧ (b = .text ∨ b = .slash) ↔ b = .text ∧ c = '/' := by grind
      rw [hslash]
      grind

theorem join_link (text : String) :
    join [.segment text, .segment ""] = String.ofList (shorten .text text.toList) := by
  by_cases h : text = ""
  · subst h
    rfl
  · simp [join, segmentsOf, Part.texts, h]

/-- A link is followed to the letter iff it has no doubled slashes. -/
theorem join_link_eq_iff (text : String) :
    join [.segment text, .segment ""] = text ↔ ¬ Doubled text := by
  rw [join_link, ← doubledBehind_text_iff]
  have hself : String.ofList (shorten .text text.toList) = text ↔
      shorten .text text.toList = text.toList := by
    constructor
    · intro h
      have := congrArg String.toList h
      rwa [String.toList_ofList] at this
    · intro h
      rw [h, String.ofList_toList]
  rw [hself, shorten_eq_self_iff]
  simp

end Path

end MagnumClient
