/-
MagnumClient.Proofs.Handouts — what a reader hands out, whatever it is asked.

A reader is asked for the fields of a record, and what it hands out is gone. What it has to answer
is told here from the record and from what was asked and answered before, not from the reader:
left are the fields of the record but those that are dropped and those that were taken (`takenIn`).
What is taken without being left is answered by the ancestor of the record, every time anew.

A question either leaves the reader as it is, or it is handed a field that was left, and that
field is gone (`ask_cases`). Everything about a run of questions is by induction from that: what
is left (`remaining_run`), that no field is handed out twice (`names_handedIn`), and that none is
lost (`handedIn_perm`).
-/
import MagnumClient.Proofs.Inheritance

namespace MagnumClient.Record.Reader

open Json (Ancestor Member ancestorName recordNames)

/-! ## 1. What was asked and answered -/

/-- The key of the field that was taken: by a take, or as a required field that was there. -/
def taken? : Question × Answer → Option String
  | (.take key, _) => some key
  | (.required key, .value _) => some key
  | _ => none

/-- The field that was handed out. -/
def handed? : Question × Answer → Option (String × Json)
  | (.take key, .value v) => some (key, v)
  | (.required key, .value v) => some (key, v)
  | _ => none

/-- The keys of the fields that were taken, in order. -/
def takenIn (log : List (Question × Answer)) : List String := log.filterMap taken?

/-- The fields that were handed out, in order. -/
def handedIn (log : List (Question × Answer)) : Fields := log.filterMap handed?

/-! ## 2. One question -/

section

variable (r : Reader) (key : String)

theorem ask_required :
    r.ask (.required key) =
      match Fields.get? key r.remaining with
      | some v => (.value v, { r with remaining := Fields.erase key r.remaining })
      | none => (.refused (.malformed r.resource key), r) := by
  simp only [ask, required, takeOwn?_eq]
  cases Fields.get? key r.remaining <;> rfl

theorem ask_take :
    r.ask (.take key) =
      match Fields.get? key r.remaining with
      | some v => (.value v, { r with remaining := Fields.erase key r.remaining })
      | none => (.ofFound ((r.ancestor.find? key).map .inherited), r) := by
  simp only [ask, take, find?]
  cases h : Fields.get? key r.remaining with
  | none => rw [Fields.erase_eq_self h]
  | some v => rfl

/-- What is inherited is not handed out. -/
theorem handed?_inherited (m : Option Member) :
    handed? (.take key, .ofFound (m.map .inherited)) = none := by
  cases m <;> rfl

end

/-- What a question does: nothing, and if a field was to be taken then it was not left; or it is
handed a field that was left, and that field is gone. -/
theorem ask_cases (r : Reader) (q : Question) :
    ((r.ask q).2 = r ∧ handed? (q, (r.ask q).1) = none ∧
      ∀ key, taken? (q, (r.ask q).1) = some key → Fields.get? key r.remaining = none) ∨
    ∃ key v, Fields.get? key r.remaining = some v ∧ taken? (q, (r.ask q).1) = some key ∧
      handed? (q, (r.ask q).1) = some (key, v) ∧
      (r.ask q).2 = { r with remaining := Fields.erase key r.remaining } := by
  cases q with
  | has key => exact .inl ⟨rfl, rfl, fun _ h => nomatch h⟩
  | rest => exact .inl ⟨rfl, rfl, fun _ h => nomatch h⟩
  | required key =>
    rw [ask_required]
    cases h : Fields.get? key r.remaining with
    | none => exact .inl ⟨rfl, rfl, fun _ h => nomatch h⟩
    | some v => exact .inr ⟨key, v, h, rfl, rfl, rfl⟩
  | take key =>
    rw [ask_take]
    cases h : Fields.get? key r.remaining with
    | none => exact .inl ⟨rfl, handed?_inherited key _, fun _ heq => Option.some.inj heq ▸ h⟩
    | some v => exact .inr ⟨key, v, h, rfl, rfl, rfl⟩

/-! ## 3. Any questions -/

theorem resource_run (r : Reader) (qs : List Question) :
    (r.run qs).2.resource = r.resource := by
  induction qs generalizing r with
  | nil => rfl
  | cons q qs ih =>
    obtain ⟨hnext, -⟩ | ⟨key, v, -, -, -, hnext⟩ := ask_cases r q <;> rw [run, ih, hnext]

theorem ancestor_run (r : Reader) (qs : List Question) :
    (r.run qs).2.ancestor = r.ancestor := by
  induction qs generalizing r with
  | nil => rfl
  | cons q qs ih =>
    obtain ⟨hnext, -⟩ | ⟨key, v, -, -, -, hnext⟩ := ask_cases r q <;> rw [run, ih, hnext]

/-- Left is what has not been taken. -/
theorem remaining_run (r : Reader) (qs : List Question) :
    (r.run qs).2.remaining = Fields.eraseAll (takenIn (r.run qs).1) r.remaining := by
  induction qs generalizing r with
  | nil => exact (Fields.eraseAll_nil r.remaining).symm
  | cons q qs ih =>
    rw [run, ih, takenIn, takenIn, List.filterMap_cons]
    obtain ⟨hnext, -, hmissing⟩ | ⟨key, v, -, htaken, -, hnext⟩ := ask_cases r q
    · rw [hnext]
      cases htaken : taken? (q, (r.ask q).1) with
      | none => rfl
      | some key => rw [Fields.eraseAll_cons, Fields.erase_eq_self (hmissing key htaken)]
    · rw [hnext, htaken, Fields.eraseAll_cons]

theorem mem_names_erase {name key : String} {fields : Fields}
    (h : name ∈ Fields.names (Fields.erase key fields)) :
    name ≠ key ∧ name ∈ Fields.names fields := by
  obtain ⟨f, hf, rfl⟩ := List.mem_map.mp h
  obtain ⟨hmem, hne⟩ := List.mem_filter.mp hf
  exact ⟨of_decide_eq_true hne, List.mem_map_of_mem hmem⟩

/-- No field is handed out twice, and only fields that were there are. -/
theorem names_handedIn (r : Reader) (qs : List Question) :
    (Fields.names (handedIn (r.run qs).1)).Nodup ∧
      ∀ key ∈ Fields.names (handedIn (r.run qs).1), key ∈ Fields.names r.remaining := by
  induction qs generalizing r with
  | nil => exact ⟨List.nodup_nil, fun _ h => nomatch h⟩
  | cons q qs ih =>
    obtain ⟨hnodup, hsub⟩ := ih (r.ask q).2
    rw [run, handedIn, List.filterMap_cons]
    obtain ⟨hnext, hnone, -⟩ | ⟨key, v, hleft, -, hhanded, hnext⟩ := ask_cases r q
    · rw [hnone]
      rw [hnext] at hnodup hsub ⊢
      exact ⟨hnodup, hsub⟩
    · have herased : ∀ name ∈ Fields.names (handedIn ((r.ask q).2.run qs).1),
          name ≠ key ∧ name ∈ Fields.names r.remaining := by
        intro name hname
        have hmem := hsub name hname
        rw [hnext] at hmem
        exact mem_names_erase hmem
      rw [hhanded]
      refine ⟨List.nodup_cons.mpr ⟨fun hkey => (herased key hkey).1 rfl, hnodup⟩, ?_⟩
      rintro name (_ | ⟨_, hname⟩)
      · exact List.mem_map_of_mem (Fields.mem_of_get?_eq_some hleft)
      · exact (herased name hname).2

theorem perm_cons_erase {key : String} {v : Json} {fields : Fields} (h : Fields.Distinct fields)
    (hv : Fields.get? key fields = some v) :
    ((key, v) :: Fields.erase key fields).Perm fields := by
  have herase : Fields.Distinct (Fields.erase key fields) := by
    rw [Fields.erase_eq_eraseAll]
    exact Fields.eraseAll_distinct h [key]
  have hcons : Fields.Distinct ((key, v) :: Fields.erase key fields) :=
    List.nodup_cons.mpr ⟨fun hmem => (mem_names_erase hmem).1 rfl, herase⟩
  refine Fields.perm_of_get?_eq hcons h fun name => ?_
  rw [Fields.get?_cons, Fields.get?_erase]
  split_ifs with hname
  · rw [← hname, hv]
  · rfl

/-- No field is lost: those handed out and those left are all that there were. -/
theorem handedIn_perm {r : Reader} (h : Fields.Distinct r.remaining) (qs : List Question) :
    (handedIn (r.run qs).1 ++ (r.run qs).2.remaining).Perm r.remaining := by
  induction qs generalizing r with
  | nil => exact .rfl
  | cons q qs ih =>
    rw [run, handedIn, List.filterMap_cons]
    obtain ⟨hnext, hnone, -⟩ | ⟨key, v, hleft, -, hhanded, hnext⟩ := ask_cases r q
    · rw [hnone, hnext]
      exact ih h
    · have hperm := perm_cons_erase h hleft
      have hrest : Fields.Distinct (r.ask q).2.remaining := by
        rw [hnext]
        exact (List.nodup_cons.mp ((hperm.map Prod.fst).nodup_iff.mpr h)).2
      have htail := ih hrest
      rw [hnext] at htail
      rw [hhanded, hnext]
      exact (htail.cons (key, v)).trans hperm

/-! ## 4. Any record -/

/-- What a reader of a record answers next, where some of the fields are left. -/
structure Offers (resource : String) (record left : Fields) (r : Reader) : Prop where
  /-- It tells all that is left, and stays as it is. -/
  rest : r.ask .rest = (.fields left, r)
  /-- It tells of any field whether it is left, and stays as it is. -/
  has : ∀ key, r.ask (.has key) = (.told (decide (key ∈ Fields.names left)), r)
  /-- It refuses a required field iff that is not left, by the name of the resource and the key. -/
  refused_iff : ∀ key f, (r.ask (.required key)).1 = .refused f ↔
    key ∉ Fields.names left ∧ f = .malformed resource key
  /-- It stays as it is where it refuses a field, and where there is none to be taken. -/
  missing : ∀ key, key ∉ Fields.names left →
    (r.ask (.required key)).2 = r ∧ (r.ask (.take key)).2 = r
  /-- Where there is no field to be taken, it has nothing iff the ancestor of the record has
  nothing. -/
  nothing_iff : ∀ key, key ∉ Fields.names left → ((r.ask (.take key)).1 = .nothing ↔
    (Ancestor.of (Fields.get? ancestorName record)).find? key = none)
  /-- And it answers what the ancestor has. -/
  inherited_iff : ∀ key, key ∉ Fields.names left → ∀ m, (r.ask (.take key)).1 = .inherited m ↔
    (Ancestor.of (Fields.get? ancestorName record)).find? key = some m
  /-- It hands out a field that is left, with the value that the record has. -/
  handed : ∀ key ∈ Fields.names left, ∃ v, Fields.get? key record = some v ∧
    (r.ask (.required key)).1 = .value v ∧ (r.ask (.take key)).1 = .value v

theorem offers_remaining {r : Reader} {record : Fields}
    (hancestor : r.ancestor = .of (Fields.get? ancestorName record))
    (h : ∀ key v, Fields.get? key r.remaining = some v → Fields.get? key record = some v) :
    Offers r.resource record r.remaining r where
  rest := rfl
  has key := by
    have hhas : r.has key = decide (key ∈ Fields.names r.remaining) := by
      rw [has, Fields.has, Bool.eq_iff_iff, decide_eq_true_iff, Option.isSome_iff_ne_none, ne_eq,
        Fields.get?_eq_none_iff, not_not]
    rw [ask, hhas]
  refused_iff key f := by
    rw [ask_required, ← Fields.get?_eq_none_iff]
    cases Fields.get? key r.remaining with
    | none => simp [eq_comm]
    | some v => simp
  missing key hkey := by
    rw [ask_required, ask_take, Fields.get?_eq_none_iff.mpr hkey]
    exact ⟨rfl, rfl⟩
  nothing_iff key hkey := by
    rw [ask_take, Fields.get?_eq_none_iff.mpr hkey, hancestor]
    cases (Ancestor.of (Fields.get? ancestorName record)).find? key <;> simp [Answer.ofFound]
  inherited_iff key hkey m := by
    rw [ask_take, Fields.get?_eq_none_iff.mpr hkey, hancestor]
    cases (Ancestor.of (Fields.get? ancestorName record)).find? key <;> simp [Answer.ofFound]
  handed key hkey := by
    have hsome : Fields.get? key r.remaining ≠ none := fun h => Fields.get?_eq_none_iff.mp h hkey
    obtain ⟨v, hv⟩ := Option.ne_none_iff_exists'.mp hsome
    rw [ask_required, ask_take, hv]
    exact ⟨v, h key v hv, rfl, rfl⟩

example : ((start "thing" (.obj [("id", .null), ("links", .arr []), ("name", .str "web")])).run
      [.take "id", .take "id", .required "links", .has "name"]).1.map Prod.snd =
    [.value .null, .nothing, .refused (.malformed "thing" "links"), .told true] := rfl

end MagnumClient.Record.Reader
