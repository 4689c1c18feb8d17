/-
MagnumClient.Proofs.Lookups — laws of looking fields up.

What is erased from a record, selected of it and put over it is told by what is found under each
name afterwards (`get?_eraseAll`, `get?_select`, `get?_overlay`). For a record that says each name
once that is all there is to tell but the order of its fields (`perm_of_get?_eq`, `get?_perm`).
-/
import Mathlib.Data.List.Nodup
import MagnumClient.Json.Basic

namespace MagnumClient.Fields

/-! ## 1. Look-ups -/

theorem get?_append (name : String) (a b : Fields) :
    get? name (a ++ b) = (get? name a).or (get? name b) := by
  induction a with
  | nil => simp
  | cons f a ih =>
    obtain ⟨k, v⟩ := f
    by_cases hk : k = name <;> simp [get?_cons, hk, ih]

/-- A field is there iff its name is. -/
theorem get?_eq_none_iff {name : String} {fields : Fields} :
    get? name fields = none ↔ name ∉ names fields := by
  induction fields with
  | nil => simp [names]
  | cons f rest ih =>
    obtain ⟨k, v⟩ := f
    by_cases hk : k = name
    · simp [get?_cons, names, hk]
    · have hk' : ¬ name = k := fun e => hk e.symm
      simpa [get?_cons, names, hk, hk'] using ih

/-- In a record that says each name once, a field is found by its name. -/
theorem get?_eq_some_of_mem {name : String} {value : Json} {fields : Fields}
    (h : Distinct fields) (hmem : (name, value) ∈ fields) : get? name fields = some value := by
  induction fields with
  | nil => cases hmem
  | cons f rest ih =>
    obtain ⟨k, v⟩ := f
    have hd : k ∉ names rest ∧ Distinct rest := by simpa [Distinct, names] using h
    rcases List.mem_cons.mp hmem with heq | hrest
    · cases heq
      simp [get?_cons]
    · have hne : k ≠ name := fun he => hd.1 (he ▸ List.mem_map_of_mem hrest)
      rw [get?_cons, if_neg hne, ih hd.2 hrest]

theorem mem_of_get?_eq_some {name : String} {value : Json} {fields : Fields}
    (h : get? name fields = some value) : (name, value) ∈ fields := by
  induction fields with
  | nil => cases h
  | cons f rest ih =>
    obtain ⟨k, v⟩ := f
    rw [get?_cons] at h
    split_ifs at h with hk
    · cases h
      exact hk ▸ List.mem_cons_self
    · exact List.mem_cons_of_mem _ (ih h)

theorem names_append (a b : Fields) : names (a ++ b) = names a ++ names b := List.map_append

/-! ## 2. Erasing -/

theorem get?_eraseAll (name : String) (banned : List String) (fields : Fields) :
    get? name (eraseAll banned fields) = if name ∈ banned then none else get? name fields := by
  induction fields with
  | nil => simp [eraseAll]
  | cons f rest ih =>
    obtain ⟨k, v⟩ := f
    by_cases hk : k ∈ banned
    · have herase : eraseAll banned ((k, v) :: rest) = eraseAll banned rest := by
        simp [eraseAll, hk]
      rw [herase, ih, get?_cons]
      split_ifs with hn he
      · rfl
      · exact absurd (he ▸ hk) hn
      · rfl
    · have herase : eraseAll banned ((k, v) :: rest) = (k, v) :: eraseAll banned rest := by
        simp [eraseAll, hk]
      rw [herase, get?_cons, ih, get?_cons]
      split_ifs with he hn
      · exact absurd (he ▸ hn) hk
      all_goals rfl

theorem eraseAll_nil (fields : Fields) : eraseAll [] fields = fields :=
  List.filter_eq_self.mpr fun _ _ => rfl

theorem eraseAll_append (banned : List String) (a b : Fields) :
    eraseAll banned (a ++ b) = eraseAll banned a ++ eraseAll banned b := List.filter_append ..

theorem eraseAll_eq_self {banned : List String} {fields : Fields}
    (h : ∀ name ∈ names fields, name ∉ banned) : eraseAll banned fields = fields := by
  refine List.filter_eq_self.mpr fun f hf => ?_
  simpa using h f.1 (List.mem_map_of_mem hf)

/-- Erasing in two goes. -/
theorem eraseAll_eraseAll (a b : List String) (fields : Fields) :
    eraseAll a (eraseAll b fields) = eraseAll (b ++ a) fields := by
  simp [eraseAll, List.filter_filter, Bool.and_comm]

theorem eraseAll_congr {a b : List String} (h : ∀ key, key ∈ a ↔ key ∈ b) (fields : Fields) :
    eraseAll a fields = eraseAll b fields :=
  List.filter_congr fun f _ => by simp [h f.1]

theorem eraseAll_cons (key : String) (keys : List String) (fields : Fields) :
    eraseAll (key :: keys) fields = eraseAll keys (erase key fields) := by
  simp [eraseAll, erase, List.filter_filter, Bool.and_comm]

theorem erase_eq_eraseAll (key : String) (fields : Fields) :
    erase key fields = eraseAll [key] fields := by
  rw [eraseAll_cons, eraseAll_nil]

/-- Erasing a field that is not there changes nothing. -/
theorem erase_eq_self {key : String} {fields : Fields} (h : get? key fields = none) :
    erase key fields = fields := by
  refine List.filter_eq_self.mpr fun f hf => ?_
  have : f.1 ≠ key := fun he => get?_eq_none_iff.mp h (he ▸ List.mem_map_of_mem hf)
  simpa using this

theorem eraseAll_distinct {fields : Fields} (h : Distinct fields) (banned : List String) :
    Distinct (eraseAll banned fields) :=
  h.sublist (List.filter_sublist.map _)

theorem eraseAll_replace {banned : List String} {name : String} (h : name ∈ banned) (value : Json)
    (fields : Fields) : eraseAll banned (replace name value fields) = eraseAll banned fields := by
  induction fields with
  | nil => rfl
  | cons f rest ih =>
    obtain ⟨k, v⟩ := f
    by_cases hk : k = name
    · subst hk
      simp [replace, eraseAll, h]
    · simp only [replace, if_neg hk, eraseAll, List.filter_cons] at ih ⊢
      rw [ih]

theorem eraseAll_insert {banned : List String} {name : String} (h : name ∈ banned) (value : Json)
    (fields : Fields) : eraseAll banned (insert name value fields) = eraseAll banned fields := by
  induction fields with
  | nil => simp [insert, eraseAll, h]
  | cons f rest ih =>
    obtain ⟨k, v⟩ := f
    unfold insert
    split
    · simp [eraseAll, h]
    · simp only [eraseAll, List.filter_cons] at ih ⊢
      rw [ih]

/-- Setting a field that is erased later changes nothing. -/
theorem eraseAll_put {banned : List String} {name : String} (h : name ∈ banned) (value : Json)
    (fields : Fields) : eraseAll banned (put name value fields) = eraseAll banned fields := by
  unfold put
  split
  · exact eraseAll_replace h value fields
  · exact eraseAll_insert h value fields

/-- Nor does erasing it before. -/
theorem eraseAll_erase {banned : List String} {name : String} (h : name ∈ banned)
    (fields : Fields) : eraseAll banned (erase name fields) = eraseAll banned fields := by
  rw [erase_eq_eraseAll, eraseAll_eraseAll]
  exact eraseAll_congr (fun key => by simp; rintro rfl; exact h) fields

/-! ## 3. Selecting -/

/-- The fields of that name, for each of some names, in the order of the names. -/
def select (keys : List String) (fields : Fields) : Fields :=
  keys.filterMap fun key => (get? key fields).map fun v => (key, v)

theorem select_append (a b : List String) (fields : Fields) :
    select (a ++ b) fields = select a fields ++ select b fields := List.filterMap_append ..

theorem get?_select (name : String) (keys : List String) (fields : Fields) :
    get? name (select keys fields) = if name ∈ keys then get? name fields else none := by
  induction keys with
  | nil => simp [select]
  | cons key keys ih =>
    cases hv : get? key fields with
    | none =>
      have hsel : select (key :: keys) fields = select keys fields := by simp [select, hv]
      rw [hsel, ih]
      by_cases hn : name = key
      · subst hn
        simp [hv]
      · simp [hn]
    | some v =>
      have hsel : select (key :: keys) fields = (key, v) :: select keys fields := by
        simp [select, hv]
      rw [hsel, get?_cons, ih]
      by_cases hn : key = name
      · subst hn
        simp [hv]
      · simp [hn, Ne.symm hn]

theorem names_select (keys : List String) (fields : Fields) :
    names (select keys fields) = keys.filter fun key => has key fields := by
  induction keys with
  | nil => rfl
  | cons key keys ih =>
    cases hv : get? key fields with
    | none => simpa [select, has, hv] using ih
    | some v => simpa [select, has, hv, names] using ih

/-- Selecting does not see what is erased besides. -/
theorem select_eraseAll {keys banned : List String} (h : ∀ key ∈ keys, key ∉ banned)
    (fields : Fields) : select keys (eraseAll banned fields) = select keys fields := by
  refine List.filterMap_congr fun key hkey => ?_
  rw [get?_eraseAll, if_neg (h key hkey)]

/-! ## 4. Order -/

/-- Two records that say each name once and answer alike have the same fields. -/
theorem perm_of_get?_eq {a b : Fields} (ha : Distinct a) (hb : Distinct b)
    (h : ∀ name, get? name a = get? name b) : a.Perm b := by
  refine (List.perm_ext_iff_of_nodup (.of_map _ ha) (.of_map _ hb)).mpr fun f => ?_
  exact ⟨fun hf => mem_of_get?_eq_some ((h f.1) ▸ get?_eq_some_of_mem ha hf),
    fun hf => mem_of_get?_eq_some ((h f.1).symm ▸ get?_eq_some_of_mem hb hf)⟩

/-- The order of the fields does not show in look-ups, if each name is said once. -/
theorem get?_perm {a b : Fields} (hb : Distinct b) (h : a.Perm b) (name : String) :
    get? name a = get? name b := by
  have ha : Distinct a := (h.map Prod.fst).nodup_iff.mpr hb
  cases hv : get? name b with
  | some v => exact get?_eq_some_of_mem ha (h.mem_iff.mpr (mem_of_get?_eq_some hv))
  | none =>
    rw [get?_eq_none_iff] at hv ⊢
    exact fun hn => hv ((h.map Prod.fst).mem_iff.mp hn)

/-! ## 5. Putting over -/

/-- The value of a field, the last one if the name is said twice. -/
def last? (name : String) (fields : Fields) : Option Json := get? name fields.reverse

theorem last?_cons (name k : String) (v : Json) (rest : Fields) :
    last? name ((k, v) :: rest) = (last? name rest).or (if k = name then some v else none) := by
  rw [last?, List.reverse_cons, get?_append, last?]
  rfl

/-- What is put over a record counts over it. -/
theorem get?_overlay_eq_last? (name : String) (base top : Fields) :
    get? name (overlay base top) = (last? name top).or (get? name base) := by
  induction top generalizing base with
  | nil => rfl
  | cons f top ih =>
    obtain ⟨k, v⟩ := f
    have hput : overlay base ((k, v) :: top) = overlay (put k v base) top := rfl
    rw [hput, ih, get?_put, last?_cons, Option.or_assoc]
    by_cases hk : k = name <;> simp [hk]

/-- In a record that says each name once the last value of a name is the only one. -/
theorem last?_eq_get? {fields : Fields} (h : Distinct fields) (name : String) :
    last? name fields = get? name fields := get?_perm h (List.reverse_perm fields) name

/-- What is put over a record counts over it, if it says each name once. -/
theorem get?_overlay (name : String) (base : Fields) {top : Fields} (h : Distinct top) :
    get? name (overlay base top) = (get? name top).or (get? name base) := by
  rw [get?_overlay_eq_last?, last?_eq_get? h]

theorem names_replace (name : String) (value : Json) (fields : Fields) :
    names (replace name value fields) = names fields := by
  induction fields with
  | nil => rfl
  | cons f rest ih =>
    by_cases hk : f.1 = name
    · simp [replace, names, hk]
    · simpa [replace, names, hk] using ih

theorem names_insert_perm (name : String) (value : Json) (fields : Fields) :
    (names (insert name value fields)).Perm (name :: names fields) := by
  induction fields with
  | nil => rfl
  | cons f rest ih =>
    unfold insert
    split
    · rfl
    · exact (ih.cons _).trans (List.Perm.swap _ _ _)

theorem put_distinct {fields : Fields} (h : Distinct fields) (name : String) (value : Json) :
    Distinct (put name value fields) := by
  unfold put Distinct
  cases hn : has name fields with
  | true =>
    rw [if_pos rfl, names_replace]
    exact h
  | false =>
    have hnew : name ∉ names fields := get?_eq_none_iff.mp (by simpa [has] using hn)
    exact (names_insert_perm name value fields).nodup_iff.mpr (List.nodup_cons.mpr ⟨hnew, h⟩)

theorem overlay_distinct {base : Fields} (h : Distinct base) (top : Fields) :
    Distinct (overlay base top) := by
  induction top generalizing base with
  | nil => exact h
  | cons f top ih => exact ih (put_distinct h f.1 f.2)

end MagnumClient.Fields
