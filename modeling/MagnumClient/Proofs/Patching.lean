/-
MagnumClient.Proofs.Patching — what a list of patch operations does to a record.

An update is sent as a list of operations (`Update.patch`), each with the path of an attribute.
The one who receives it reads a path as a JSON pointer: tokens, each behind a slash, in which a
tilde is the start of an escape (`Pointer.tokens?`), and carries the operations out one after the
other (`Update.run?`). The name of an attribute is put into a path as it stands, so the pointer
leads to that attribute only if the name is `Plain`, without slash and tilde.

If all names are plain, each operation changes its own attribute and leaves the others, and all of
them make the update (`run?_patch`). If not, take the longest name that is not plain. No path
starts with a token of that name: a plain name is the only token of its own path, and the first
token of any other is shorter than the name it was made of (`length_lt_of_not_plain`). So this
attribute is never touched (`field?_of_run?`), and the update is made only if it was made already.
-/
import Mathlib.Data.Finset.Max
import Mathlib.Data.List.TakeWhile
import MagnumClient.Update.Patch
import MagnumClient.Proofs.Lookups

namespace MagnumClient

/-! ## 1. Pointers -/

namespace Pointer

/-- A token without its escapes: `~1` is a slash and `~0` a tilde, and no other tilde is allowed. -/
def unescape? : List Char → Option (List Char)
  | [] => some []
  | '~' :: '0' :: cs => (unescape? cs).map ('~' :: ·)
  | '~' :: '1' :: cs => (unescape? cs).map ('/' :: ·)
  | c :: cs => if c = '~' then none else (unescape? cs).map (c :: ·)

/-- The tokens of a pointer, `none` if the text is no pointer. -/
def tokens? (pointer : String) : Option (List String) :=
  match pointer.toList with
  | [] => some []
  | c :: cs =>
    if c = '/' then (cs.splitOn '/').mapM fun token => (unescape? token).map String.ofList
    else none

/-- The place in a list that a token names: decimal digits without a leading zero. -/
def place? (token : String) : Option Nat := token.toNat?.filter fun n => toString n = token

end Pointer

namespace Fields

/-- Gives an existing field another value, or takes the field away. -/
def change (name : String) : Option Json → Fields → Fields
  | some value => replace name value
  | none => erase name

end Fields

namespace Json

/-- A document whose value at a path is replaced, or taken away if there is no value to replace it;
`none` if the path leads nowhere. Of the whole document nothing is left if that is taken away. -/
def changeAt? (value : Option Json) : List String → Json → Option (Option Json)
  | [], _ => some value
  | token :: path, obj fields => do
    let part ← Fields.get? token fields
    let changed ← changeAt? value path part
    some (some (obj (Fields.change token changed fields)))
  | token :: path, arr items => do
    let i ← Pointer.place? token
    let part ← items[i]?
    let changed ← changeAt? value path part
    some (some (arr (changed.elim (items.eraseIdx i) (items.set i))))
  | _ :: _, _ => none

end Json

namespace Update

open Fields (get? has names Distinct change)

/-! ## 2. Operations -/

/-- The pointer to what an operation is about. -/
def Operation.path : Operation → String
  | remove path => path
  | replace path _ => path

/-- The value that an operation puts in place, if it puts one. -/
def Operation.value? : Operation → Option Json
  | remove _ => none
  | replace _ value => some value

/-- Carries an operation out; `none` if that fails. -/
def Operation.run? (operation : Operation) (document : Json) : Option Json :=
  (Pointer.tokens? operation.path).bind fun path =>
    (Json.changeAt? operation.value? path document).join

/-- Carries operations out one after the other, until one fails. -/
def run? (operations : List Operation) (document : Json) : Option Json :=
  operations.foldlM (fun document operation => operation.run? document) document

/-- A name that a pointer leads to as it stands. -/
def Plain (name : String) : Prop := '/' ∉ name.toList ∧ '~' ∉ name.toList

/-- The value that an attribute is given; `none` if the attribute is to go. -/
def given? (value : Json) : Option Json := if value.isNull then none else some value

/-- A record with an update made: attributes that are given null are gone, those that are given
another value have it, and all others are as they were. -/
structure Updated (fields record result : Fields) : Prop where
  distinct : Distinct result
  removed : ∀ name, get? name fields = some .null → get? name result = none
  replaced : ∀ name value, get? name fields = some value → value.isNull = false →
    get? name result = some value
  kept : ∀ name, name ∉ names fields → get? name result = get? name record

/-- The patch of an update makes the update of a record. -/
def Makes (fields record : Fields) : Prop :=
  ∃ result, run? (patch fields) (.obj record) = some (.obj result) ∧ Updated fields record result

@[simp] theorem path_ofField (f : String × Json) : (Operation.ofField f).path = pathOf f.1 := by
  obtain ⟨name, value⟩ := f
  cases value <;> rfl

@[simp] theorem value?_ofField (f : String × Json) : (Operation.ofField f).value? = given? f.2 := by
  obtain ⟨name, value⟩ := f
  cases value <;> rfl

theorem run?_cons (operation : Operation) (operations : List Operation) (document : Json) :
    run? (operation :: operations) document =
      (operation.run? document).bind (run? operations) := rfl

end Update

/-! ## 3. Paths of names -/

namespace Pointer

theorem unescape?_of_not_mem {cs : List Char} (h : '~' ∉ cs) : unescape? cs = some cs := by
  induction cs with
  | nil => rfl
  | cons c cs ih =>
    simp only [List.mem_cons, not_or] at h
    rw [unescape?, if_neg (Ne.symm h.1), ih h.2]
    · rfl
    all_goals
      rintro _ rfl
      exact absurd rfl h.1

/-- Escapes make a token shorter. -/
theorem length_le_of_unescape? {cs token : List Char} (h : unescape? cs = some token) :
    token.length ≤ cs.length ∧ ('~' ∈ cs → token.length < cs.length) := by
  fun_induction unescape? cs generalizing token with
  | case1 => simp_all
  | case2 cs ih =>
    obtain ⟨rest, hrest, rfl⟩ := Option.map_eq_some_iff.mp h
    have := (ih hrest).1
    simp only [List.length_cons]
    omega
  | case3 cs ih =>
    obtain ⟨rest, hrest, rfl⟩ := Option.map_eq_some_iff.mp h
    have := (ih hrest).1
    simp only [List.length_cons]
    omega
  | case4 => cases h
  | case5 c cs _ _ hc ih =>
    obtain ⟨rest, hrest, rfl⟩ := Option.map_eq_some_iff.mp h
    obtain ⟨hle, hlt⟩ := ih hrest
    simp only [List.length_cons, List.mem_cons]
    refine ⟨by omega, fun hmem => ?_⟩
    have := hlt (hmem.resolve_left (Ne.symm hc))
    omega

/-- The first part of a split text is what stands before the first separator. -/
theorem head?_splitOn (cs : List Char) :
    (cs.splitOn '/').head? = some (cs.takeWhile (· != '/')) := by
  induction cs with
  | nil => rfl
  | cons c cs ih =>
    obtain ⟨first, others, hrest⟩ := List.exists_cons_of_ne_nil (List.splitOn_ne_nil '/' cs)
    rw [hrest, List.head?_cons, Option.some.injEq] at ih
    rw [List.splitOn_cons_eq_if_modifyHead, hrest]
    by_cases hc : c = '/' <;> simp [hc, ih]

end Pointer

namespace Update

open Fields (get? has names Distinct change)
open Pointer (tokens? unescape?)

theorem tokens?_pathOf (name : String) : tokens? (pathOf name) =
    (name.toList.splitOn '/').mapM fun token => (unescape? token).map String.ofList := by
  simp [tokens?, pathOf]

/-- The path of a plain name has that name as its token. -/
theorem tokens?_of_plain {name : String} (h : Plain name) :
    tokens? (pathOf name) = some [name] := by
  rw [tokens?_pathOf, List.splitOn_eq_singleton h.1]
  simp [Pointer.unescape?_of_not_mem h.2]

/-- The first token of another path is shorter than the name. -/
theorem length_lt_of_not_plain {name token : String} {path : List String} (h : ¬ Plain name)
    (htokens : tokens? (pathOf name) = some (token :: path)) :
    token.toList.length < name.toList.length := by
  obtain ⟨first, others, hsplit⟩ :=
    List.exists_cons_of_ne_nil (List.splitOn_ne_nil '/' name.toList)
  have hfirst : first = name.toList.takeWhile (· != '/') := by
    have := Pointer.head?_splitOn name.toList
    rwa [hsplit, List.head?_cons, Option.some.injEq] at this
  have htoken : unescape? first = some token.toList := by
    rw [tokens?_pathOf, hsplit, List.mapM_cons] at htokens
    simp only [Option.bind_eq_bind, Option.bind_eq_some_iff, Option.map_eq_some_iff] at htokens
    obtain ⟨_, ⟨cs, hcs, rfl⟩, _, _, heq⟩ := htokens
    cases heq
    rw [hcs, String.toList_ofList]
  obtain ⟨hle, hlt⟩ := Pointer.length_le_of_unescape? htoken
  have hprefix : first.length ≤ name.toList.length := by
    rw [hfirst]
    exact (List.takeWhile_prefix _).length_le
  by_cases hslash : '/' ∈ name.toList
  · -- the name goes on behind its first slash
    have hshort : first.length < name.toList.length := by
      refine lt_of_le_of_ne hprefix fun heq => ?_
      rw [hfirst] at heq
      have hall := List.takeWhile_eq_self_iff.mp
        ((List.takeWhile_prefix (p := (· != '/'))).eq_of_length heq)
      simpa using hall '/' hslash
    omega
  · have htilde : '~' ∈ name.toList := by
      by_contra htilde
      exact h ⟨hslash, htilde⟩
    have hwhole : first = name.toList := by
      rw [hfirst, List.takeWhile_eq_self_iff]
      exact fun c hc => bne_iff_ne.mpr (ne_of_mem_of_not_mem hc hslash)
    have := hlt (hwhole ▸ htilde)
    omega

/-! ## 4. Plain names -/

/-- The record that is left when the fields of an update have been changed in it, in their order. -/
def patched (fields record : Fields) : Fields :=
  fields.foldl (fun record f => change f.1 (given? f.2) record) record

theorem get?_change {key name : String} {value : Option Json} {record : Fields}
    (h : has key record = true) :
    get? name (change key value record) = if key = name then value else get? name record := by
  cases value with
  | none => exact Fields.get?_erase key name record
  | some v => exact Fields.get?_replace key name v record h

theorem change_distinct {key : String} {value : Option Json} {record : Fields}
    (h : Distinct record) : Distinct (change key value record) := by
  cases value with
  | none =>
    rw [change, Fields.erase_eq_eraseAll]
    exact Fields.eraseAll_distinct h [key]
  | some v =>
    rw [change, Distinct, Fields.names_replace]
    exact h

/-- With a plain name, an operation changes the attribute of that name. -/
theorem run?_ofField {f : String × Json} {record : Fields} (hplain : Plain f.1)
    (h : has f.1 record = true) :
    (Operation.ofField f).run? (.obj record) = some (.obj (change f.1 (given? f.2) record)) := by
  obtain ⟨part, hpart⟩ := Option.isSome_iff_exists.mp h
  simp [Operation.run?, tokens?_of_plain hplain, Json.changeAt?, hpart]

/-- A change to the first attribute of an update leaves the others where they are. -/
theorem has_others {f : String × Json} {fields record : Fields} (hd : Distinct (f :: fields))
    (h : ∀ name ∈ names (f :: fields), has name record = true) (value : Option Json) :
    ∀ name ∈ names fields, has name (change f.1 value record) = true := by
  intro name hname
  have hne : f.1 ≠ name := by
    rintro rfl
    exact (List.nodup_cons.mp hd).1 hname
  rw [has, get?_change (h f.1 List.mem_cons_self), if_neg hne]
  exact h name (List.mem_cons_of_mem _ hname)

/-- With plain names, the operations change the attributes of these names. -/
theorem run?_patch {fields record : Fields} (hd : Distinct fields)
    (hplain : ∀ name ∈ names fields, Plain name)
    (h : ∀ name ∈ names fields, has name record = true) :
    run? (patch fields) (.obj record) = some (.obj (patched fields record)) := by
  induction fields generalizing record with
  | nil => rfl
  | cons f fields ih =>
    have hfirst := run?_ofField (hplain f.1 List.mem_cons_self) (h f.1 List.mem_cons_self)
    rw [patch, List.map_cons, run?_cons, hfirst, Option.bind_some, ← patch]
    exact ih (List.nodup_cons.mp hd).2
      (fun name hname => hplain name (List.mem_cons_of_mem _ hname)) (has_others hd h _)

theorem get?_patched {fields record : Fields} (hd : Distinct fields)
    (h : ∀ name ∈ names fields, has name record = true) (name : String) :
    get? name (patched fields record) =
      ((get? name fields).map given?).getD (get? name record) := by
  induction fields generalizing record with
  | nil => rfl
  | cons f fields ih =>
    obtain ⟨hnew, hrest⟩ := List.nodup_cons.mp hd
    rw [patched, List.foldl_cons, ← patched, ih hrest (has_others hd h _),
      get?_change (h f.1 List.mem_cons_self), Fields.get?_cons]
    by_cases hname : f.1 = name
    · subst hname
      have hgone : get? f.1 fields = none := Fields.get?_eq_none_iff.mpr hnew
      simp [hgone]
    · simp [hname]

theorem patched_distinct {record : Fields} (h : Distinct record) (fields : Fields) :
    Distinct (patched fields record) := by
  induction fields generalizing record with
  | nil => exact h
  | cons f fields ih => exact ih (change_distinct h)

theorem given?_eq_some {value : Json} (h : value.isNull = false) : given? value = some value := by
  simp [given?, h]

/-- Attributes changed to what an update gives them make the update. -/
theorem updated_patched {fields record : Fields} (hd : Distinct fields) (hrecord : Distinct record)
    (h : ∀ name ∈ names fields, has name record = true) :
    Updated fields record (patched fields record) where
  distinct := patched_distinct hrecord fields
  removed name hname := by
    rw [get?_patched hd h, hname]
    rfl
  replaced name value hname hvalue := by
    rw [get?_patched hd h, hname]
    exact given?_eq_some hvalue
  kept name hname := by
    rw [get?_patched hd h, Fields.get?_eq_none_iff.mpr hname]
    rfl

/-! ## 5. Names that are not plain -/

/-- A change behind one name leaves the attributes of all others. -/
theorem field?_of_changeAt? {value : Option Json} {token name : String} {path : List String}
    {record : Fields} {changed : Option Json} (hne : token ≠ name)
    (h : Json.changeAt? value (token :: path) (.obj record) = some changed) :
    ∃ result, changed = some (.obj result) ∧ get? name result = get? name record := by
  simp only [Json.changeAt?, Option.bind_eq_bind, Option.bind_eq_some_iff] at h
  obtain ⟨part, hpart, inner, -, heq⟩ := h
  cases heq
  have hhas : has token record = true := by rw [has, hpart]; rfl
  exact ⟨_, rfl, by rw [get?_change hhas, if_neg hne]⟩

theorem exists_tokens_cons {name : String} {path : List String}
    (h : tokens? (pathOf name) = some path) : ∃ token rest, path = token :: rest := by
  obtain ⟨first, others, hsplit⟩ :=
    List.exists_cons_of_ne_nil (List.splitOn_ne_nil '/' name.toList)
  rw [tokens?_pathOf, hsplit, List.mapM_cons] at h
  simp only [Option.bind_eq_bind, Option.bind_eq_some_iff] at h
  obtain ⟨token, -, rest, -, heq⟩ := h
  exact ⟨token, rest, (Option.some.inj heq).symm⟩

/-- A path starts with its name if that is plain, and else with a token that is shorter. -/
theorem token_ne {name other token : String} {path : List String} (hother : ¬ Plain other)
    (hlong : ¬ Plain name → name.toList.length ≤ other.toList.length)
    (h : tokens? (pathOf name) = some (token :: path)) : token ≠ other := by
  rintro rfl
  by_cases hplain : Plain name
  · rw [tokens?_of_plain hplain] at h
    cases h
    exact hother hplain
  · have hlt := length_lt_of_not_plain hplain h
    have hle := hlong hplain
    omega

/-- **The longest name that is not plain is never reached.** -/
theorem field?_of_run? {fields record : Fields} {name : String} {document : Json}
    (hname : ¬ Plain name)
    (hlong : ∀ key ∈ names fields, ¬ Plain key → key.toList.length ≤ name.toList.length)
    (h : run? (patch fields) (.obj record) = some document) :
    document.field? name = get? name record := by
  induction fields generalizing record with
  | nil =>
    cases h
    rfl
  | cons f fields ih =>
    rw [patch, List.map_cons, run?_cons, Option.bind_eq_some_iff, ← patch] at h
    obtain ⟨next, hnext, hrest⟩ := h
    rw [Operation.run?, path_ofField, Option.bind_eq_some_iff] at hnext
    obtain ⟨path, hpath, hchanged⟩ := hnext
    obtain ⟨token, path, rfl⟩ := exists_tokens_cons hpath
    have hne := token_ne hname (hlong f.1 List.mem_cons_self) hpath
    obtain ⟨result, hresult, hget⟩ := field?_of_changeAt? hne (Option.join_eq_some_iff.mp hchanged)
    cases hresult
    rw [ih (fun key hkey => hlong key (List.mem_cons_of_mem _ hkey)) hrest, hget]

/-- Of the names that are not plain, one is the longest. -/
theorem exists_longest {fields : Fields} (h : ∃ name ∈ names fields, ¬ Plain name) :
    ∃ name ∈ names fields, ¬ Plain name ∧
      ∀ key ∈ names fields, ¬ Plain key → key.toList.length ≤ name.toList.length := by
  classical
  obtain ⟨first, hfirst, hnot⟩ := h
  obtain ⟨name, hname, hmax⟩ :=
    ((names fields).toFinset.filter fun key => ¬ Plain key).exists_max_image
      (fun key => key.toList.length) ⟨first, by simp [hfirst, hnot]⟩
  simp only [Finset.mem_filter, List.mem_toFinset] at hname hmax
  exact ⟨name, hname.1, hname.2, fun key hkey hplain => hmax key ⟨hkey, hplain⟩⟩

/-- What is left of a record by an update is not what it was with all attributes null. -/
theorem Updated.get?_ne {fields record result : Fields} {name : String}
    (h : Updated fields record result) (hname : name ∈ names fields) :
    get? name result ≠ some .null := by
  obtain ⟨value, hvalue⟩ : ∃ value, get? name fields = some value := by
    rw [← Option.ne_none_iff_exists', Ne, Fields.get?_eq_none_iff, not_not]
    exact hname
  cases hnull : value.isNull with
  | true =>
    have : value = .null := by cases value <;> first | rfl | cases hnull
    subst this
    simp [h.removed name hvalue]
  | false =>
    rw [h.replaced name value hvalue hnull]
    rintro heq
    cases heq
    cases hnull

/-! ## 6. The patch of an update -/

/-- **When a patch makes the update.** The patch of an update makes it, of every record that has
the attributes, if and only if their names are plain. If one is not, there is an attribute with a
name that is not plain, the longest, which the patch does not touch, whatever the record. -/
theorem patch_makes_iff {fields : Fields} (hd : Distinct fields) :
    ((∀ record, Distinct record → (∀ name ∈ names fields, has name record = true) →
        Makes fields record) ↔ ∀ name ∈ names fields, Plain name) ∧
    ((∃ name ∈ names fields, ¬ Plain name) → ∃ name ∈ names fields, ¬ Plain name ∧
      ∀ record document, run? (patch fields) (.obj record) = some document →
        document.field? name = get? name record) := by
  have huntouched : (∃ name ∈ names fields, ¬ Plain name) → ∃ name ∈ names fields, ¬ Plain name ∧
      ∀ record document, run? (patch fields) (.obj record) = some document →
        document.field? name = get? name record := fun h => by
    obtain ⟨name, hname, hplain, hlong⟩ := exists_longest h
    exact ⟨name, hname, hplain, fun record document hrun => field?_of_run? hplain hlong hrun⟩
  refine ⟨⟨fun h => ?_, fun hplain record hrecord hall => ?_⟩, huntouched⟩
  · by_contra hnot
    obtain ⟨name, hname, -, hkept⟩ := huntouched (by simpa using hnot)
    -- a record of nulls, of which one is left where it was
    let record : Fields := fields.map fun f => (f.1, .null)
    have hnames : names record = names fields := by simp [record, names]
    have hrecord : Distinct record := by rw [Distinct, hnames]; exact hd
    have hnull : ∀ key ∈ names fields, get? key record = some .null := by
      intro key hkey
      obtain ⟨f, hf, rfl⟩ := List.mem_map.mp hkey
      exact Fields.get?_eq_some_of_mem hrecord (List.mem_map_of_mem hf)
    obtain ⟨result, hrun, hupdated⟩ := h record hrecord fun key hkey => by
      rw [has, hnull key hkey]
      rfl
    refine hupdated.get?_ne hname ?_
    rw [← hnull name hname, ← hkept record _ hrun]
    rfl
  · exact ⟨_, run?_patch hd hplain hall, updated_patched hd hrecord hall⟩

/-- A number is changed, labels are replaced as a whole and a key is taken away. -/
theorem patch_makes_resize :
    let fields : Fields := [("node_count", .str "4"), ("labels", .obj [("tier", .str "gold")]),
      ("keypair", .null)]
    let record : Fields := [("name", .str "web"), ("keypair", .str "key"), ("node_count", .str "1"),
      ("labels", .obj [("tier", .str "tin"), ("team", .str "ops")])]
    Distinct fields ∧ (∀ name ∈ names fields, Plain name) ∧ Distinct record ∧
      (∀ name ∈ names fields, has name record = true) ∧ Makes fields record ∧
      run? (patch fields) (.obj record) = some (.obj [("name", .str "web"),
        ("node_count", .str "4"), ("labels", .obj [("tier", .str "gold")])]) := by
  intro fields record
  have hd : Distinct fields := by simp [fields, Distinct, names]
  have hplain : ∀ name ∈ names fields, Plain name := by simp [fields, names, Plain]
  have hrecord : Distinct record := by simp [record, Distinct, names]
  have hall : ∀ name ∈ names fields, has name record = true := by
    simp [fields, record, names, has, Fields.get?_cons]
  exact ⟨hd, hplain, hrecord, hall, (patch_makes_iff hd).1.mpr hplain record hrecord hall, rfl⟩

/-- A slash in a name leads into another attribute, and here to none; a tilde leads to an attribute
of another name, which is changed instead. -/
theorem names_lead_astray :
    let slashed : Fields := [("team/owner", .str "new")]
    let record : Fields := [("team/owner", .str "old")]
    let tilded : Fields := [("a~0", .str "new")]
    let other : Fields := [("a~0", .str "old"), ("a~", .str "old")]
    (Distinct slashed ∧ Distinct record ∧ (∀ name ∈ names slashed, has name record = true) ∧
      run? (patch slashed) (.obj record) = none ∧ ¬ Makes slashed record) ∧
    (Distinct tilded ∧ Distinct other ∧ (∀ name ∈ names tilded, has name other = true) ∧
      run? (patch tilded) (.obj other) = some (.obj [("a~0", .str "old"), ("a~", .str "new")]) ∧
      ¬ Makes tilded other) := by
  intro slashed record tilded other
  have hfailed : run? (patch slashed) (.obj record) = none := rfl
  have hchanged : run? (patch tilded) (.obj other) =
      some (.obj [("a~0", .str "old"), ("a~", .str "new")]) := rfl
  refine ⟨⟨?_, ?_, ?_, hfailed, ?_⟩, ?_, ?_, ?_, hchanged, ?_⟩
  · simp [slashed, Distinct, names]
  · simp [record, Distinct, names]
  · simp [slashed, record, names, has, Fields.get?_cons]
  · rintro ⟨result, hrun, -⟩
    rw [hfailed] at hrun
    cases hrun
  · simp [tilded, Distinct, names]
  · simp [other, Distinct, names]
  · simp [tilded, other, names, has, Fields.get?_cons]
  · rintro ⟨result, hrun, hupdated⟩
    rw [hchanged] at hrun
    cases hrun
    have := hupdated.replaced "a~0" (.str "new") rfl rfl
    simp [Fields.get?_cons] at this

end Update

end MagnumClient
