/-
MagnumClient.Proofs.Inheritance — what a record under a reader inherits.

A reader starts with the fields of a record but the noise and the one that names an ancestor, and
with that ancestor (`Reader.start_eq`). So what it says for a key is told by the record: the
record's own value, and else the value that the ancestor has (`heard?`).
-/
import MagnumClient.Proofs.Lookups
import MagnumClient.Record.Reader

namespace MagnumClient

open Fields (get? eraseAll)
open Json (Ancestor Member ancestorName)

namespace Record

/-! ## 1. A reader at its start -/

theorem Reader.start_eq (resource : String) (record : Json) :
    start resource record =
      ⟨resource, eraseAll dropped record.ownFields,
        .of (get? ancestorName record.ownFields)⟩ := by
  have hnoise : ancestorName ∉ noise := by decide
  rw [start, Fields.erase_eq_eraseAll, Fields.eraseAll_eraseAll, Fields.get?_eraseAll,
    if_neg hnoise, dropped]

/-- Dropping more than the noise makes a difference to a record that names an ancestor. -/
theorem eraseAll_dropped_eq_iff (taken : List String) (fields : Fields) :
    eraseAll (dropped ++ taken) fields = eraseAll (noise ++ taken) fields ↔
      ancestorName ∉ Fields.names fields ∨ ancestorName ∈ taken := by
  have hdropped : ancestorName ∈ dropped := by decide
  have hnoise : ancestorName ∉ noise := by decide
  constructor
  · intro heq
    have hget := congrArg (get? ancestorName) heq
    rw [Fields.get?_eraseAll, Fields.get?_eraseAll, if_pos (by simp [hdropped])] at hget
    by_cases htaken : ancestorName ∈ taken
    · exact .inr htaken
    · rw [if_neg (by simp [hnoise, htaken])] at hget
      exact .inl (Fields.get?_eq_none_iff.mp hget.symm)
  · rintro (hnone | htaken)
    · refine List.filter_congr fun f hf => ?_
      have hne : f.1 ≠ ancestorName := fun he => hnone (he ▸ List.mem_map_of_mem hf)
      simp [dropped, hne]
    · refine Fields.eraseAll_congr (fun key => ?_) fields
      simp only [dropped, List.append_assoc, List.mem_append, List.mem_singleton]
      exact ⟨by rintro (h | rfl | h) <;> simp_all, by tauto⟩

/-! ## 2. Values by themselves or through an ancestor -/

/-- The value that a record says for a key: its own, and else the one that it inherits. -/
def heard? (record : Fields) (key : String) : Option Json :=
  (get? key record).or
    (((Ancestor.of (get? ancestorName record)).find? key).bind Member.value?)

/-- The fields that a record says for some keys, in the order of the keys. -/
def hearing (keys : List String) (record : Fields) : Fields :=
  keys.filterMap fun key => (heard? record key).map fun v => (key, v)

theorem names_hearing_sublist (keys : List String) (record : Fields) :
    (Fields.names (hearing keys record)).Sublist keys := by
  induction keys with
  | nil => exact .refl _
  | cons key keys ih =>
    cases hv : heard? record key with
    | none =>
      have hskip : hearing (key :: keys) record = hearing keys record := by simp [hearing, hv]
      rw [hskip]
      exact ih.cons key
    | some v =>
      have hkeep : hearing (key :: keys) record = (key, v) :: hearing keys record := by
        simp [hearing, hv]
      rw [hkeep]
      exact ih.cons_cons key

/-- A list has no field under a name that is not all digits. -/
theorem get?_indexed_eq_none {name : String} {c : Char} (hmem : c ∈ name.toList)
    (hdigit : c.isDigit = false) (items : List Json) : get? name (Json.indexed items) = none := by
  refine Fields.get?_eq_none_iff.mpr fun hname => ?_
  obtain ⟨f, hf, rfl⟩ := List.mem_map.mp hname
  obtain ⟨p, -, rfl⟩ := List.mem_map.mp hf
  have hdigits : c ∈ Nat.toDigits 10 p.2 := by
    simpa [Nat.repr_eq_ofList_toDigits] using hmem
  simp [Nat.isDigit_of_mem_toDigits (by omega) (by omega) hdigits] at hdigit

theorem Reader.value?_find? (key : String) (r : Reader) :
    (r.find? key).bind Found.value? =
      (get? key r.remaining).or ((r.ancestor.find? key).bind Member.value?) := by
  unfold find?
  cases get? key r.remaining with
  | some v => rfl
  | none => cases r.ancestor.find? key <;> rfl

end Record

end MagnumClient
