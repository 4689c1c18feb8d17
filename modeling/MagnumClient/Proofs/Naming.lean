/-
MagnumClient.Proofs.Naming — which entities a text names.

`Resolver.Names` says what it is for a text to name an entity: one of the two
texts that the entity goes by, its identifier or its name, is that text, or the
text matches it as a wildcard. Nothing is said of how entities are looked for.

Looking for a text finds no entity that it does not name (`names_of_mem_select`),
unless the text is empty. The empty text counts as no text at all, and finds the
whole list (`select_empty`).
-/
import MagnumClient.Selection.Resolver

namespace MagnumClient.Selection.Resolver

/-! ## 1. Naming -/

/-- A text names an entity. -/
def Names (r : Resolver) (text : String) (e : Json) : Prop :=
  ∃ key ∈ [r.idKey, "name"], ∃ value, e.field? key = some (.str value) ∧
    (value = text ∨ ∃ m, Wildcard.matcher? text = some m ∧ m.test value = true)

theorem fieldText?_eq_some {key value : String} {e : Json} (h : fieldText? key e = some value) :
    e.field? key = some (.str value) := by
  obtain ⟨hbind, -⟩ := Option.filter_eq_some_iff.mp h
  obtain ⟨v, hv, hs⟩ := Option.bind_eq_some_iff.mp hbind
  cases v with
  | str s =>
    obtain rfl : s = value := Option.some.inj hs
    exact hv
  | _ => cases hs

theorem field?_of_mem_candidates {r : Resolver} {e : Json} {value : String}
    (h : value ∈ r.candidates e) :
    ∃ key ∈ [r.idKey, "name"], e.field? key = some (.str value) := by
  rcases List.mem_append.mp h with h | h
  · exact ⟨r.idKey, by simp, fieldText?_eq_some (Option.mem_toList.mp h)⟩
  · exact ⟨"name", by simp, fieldText?_eq_some (Option.mem_toList.mp h)⟩

theorem names_of_answersTo {r : Resolver} {text : String} {e : Json}
    (h : r.answersTo text (Wildcard.matcher? text) e = true) : r.Names text e := by
  rcases (Bool.or_eq_true _ _).mp h with h | h
  · obtain ⟨key, hkey, hfield⟩ := field?_of_mem_candidates (List.contains_iff_mem.mp h)
    exact ⟨key, hkey, text, hfield, .inl rfl⟩
  · cases hm : Wildcard.matcher? text with
    | none => simp [hm] at h
    | some m =>
      rw [hm] at h
      obtain ⟨value, hmem, htest⟩ := List.any_eq_true.mp h
      obtain ⟨key, hkey, hfield⟩ := field?_of_mem_candidates hmem
      exact ⟨key, hkey, value, hfield, .inr ⟨m, hm, htest⟩⟩

theorem eq_empty_of_units {v : String} (h : (Text.units v).isEmpty = true) : v = "" := by
  have hchars : v.toList = [] := by
    cases hv : v.toList with
    | nil => rfl
    | cons c cs =>
      unfold Text.units Text.unitsOfChar at h
      rw [hv, List.flatMap_cons] at h
      dsimp only at h
      split at h <;> simp at h
  exact String.toList_eq_nil_iff.mp hchars

/-- The empty text names what is called by the empty text, and nothing else. -/
theorem names_empty_iff {r : Resolver} {e : Json} :
    r.Names "" e ↔ ∃ key ∈ [r.idKey, "name"], e.field? key = some (.str "") := by
  have hm : Wildcard.matcher? "" = some ⟨[]⟩ := by cbv
  constructor
  · rintro ⟨key, hkey, value, hfield, h⟩
    have hvalue : value = "" := by
      rcases h with h | ⟨m, hm', htest⟩
      · exact h
      · rw [hm] at hm'
        obtain rfl := Option.some.inj hm'
        refine eq_empty_of_units ?_
        rw [Wildcard.Matcher.test, Wildcard.Regex.test] at htest
        exact htest
    exact ⟨key, hkey, hvalue ▸ hfield⟩
  · rintro ⟨key, hkey, hfield⟩
    exact ⟨key, hkey, "", hfield, .inl rfl⟩

/-! ## 2. Looking for a text -/

/-- The empty text is no text: nothing is asked of the entities. -/
@[simp] theorem select_empty (r : Resolver) (entities : List Json) :
    r.select entities (some "") .all = .ok entities.zipIdx := rfl

/-- A text that is not empty finds the entities that answer to it, provided that
none is null. -/
theorem select_text {r : Resolver} {text : String} (h : text ≠ "") (entities : List Json) :
    r.select entities (some text) .all = r.named text entities.zipIdx := by
  have hname : (some text).filter (fun n => !n.isEmpty) = some text := by
    simp [Option.filter, h]
  unfold select selectIn
  simp only [hname]
  cases r.named text entities.zipIdx with
  | error f => rfl
  | ok found => cases found <;> rfl

/-- Of a list without a null, the entities are named that answer. -/
theorem named_zipIdx {r : Resolver} {entities : List Json}
    (hnull : ∀ e ∈ entities, e.isNull = false) (text : String) :
    r.named text entities.zipIdx =
      .ok (entities.zipIdx.filter fun p => r.answersTo text (Wildcard.matcher? text) p.1) := by
  have hnone : (entities.zipIdx.any fun p => p.1.isNull) = false := by
    rw [List.any_eq_false]
    intro p hp
    simp [hnull p.1 (List.fst_mem_of_mem_zipIdx hp)]
  rw [named, hnone]
  rfl

theorem mem_of_mem_named {r : Resolver} {text : String} {entities found : List Placed}
    (h : r.named text entities = .ok found) {p : Placed} (hp : p ∈ found) :
    p ∈ entities ∧ r.Names text p.1 := by
  unfold named at h
  split at h
  · cases h
  · obtain rfl := Except.ok.inj h
    obtain ⟨hmem, hans⟩ := List.mem_filter.mp hp
    exact ⟨hmem, names_of_answersTo hans⟩

/-- What is found is in the list. -/
theorem mem_of_mem_select {r : Resolver} {text : String} {entities : List Json}
    {found : List Placed} (h : r.select entities (some text) .all = .ok found) {p : Placed}
    (hp : p ∈ found) : p.1 ∈ entities := by
  have key : p ∈ entities.zipIdx := by
    by_cases ht : text = ""
    · subst ht
      obtain rfl := Except.ok.inj h
      exact hp
    · rw [select_text ht] at h
      exact (mem_of_mem_named h hp).1
  exact List.fst_mem_of_mem_zipIdx key

/-- What a text finds it names, unless it is empty. -/
theorem names_of_mem_select {r : Resolver} {text : String} (ht : text ≠ "")
    {entities : List Json} {found : List Placed}
    (h : r.select entities (some text) .all = .ok found) {p : Placed} (hp : p ∈ found) :
    r.Names text p.1 := by
  rw [select_text ht] at h
  exact (mem_of_mem_named h hp).2

/-- Only a list with a null in it cannot be searched. -/
theorem exists_null_of_select_error {r : Resolver} {text : String} {entities : List Json}
    {f : Failure} (h : r.select entities (some text) .all = .error f) :
    ∃ e ∈ entities, e.isNull = true := by
  by_cases ht : text = ""
  · subst ht
    cases h
  · rw [select_text ht] at h
    unfold named at h
    split at h
    · rename_i hnull
      obtain ⟨p, hp, hn⟩ := List.any_eq_true.mp hnull
      exact ⟨p.1, List.fst_mem_of_mem_zipIdx hp, hn⟩
    · cases h

end MagnumClient.Selection.Resolver
