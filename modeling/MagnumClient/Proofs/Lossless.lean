/-
MagnumClient.Proofs.Lossless — a normal form loses and invents nothing.

A reader hands fields out of one copy of the record, and a schema lists what is asked of it:
required fields first, then those kept back, then the optional ones. What could go wrong is
told by the schema alone. A key that is listed twice is gone the second time; a key that is
dropped is never there; two fields shown under one name hide each other. `Schema.Sound` says that
none of this happens. It is decidable, and all three schemas are sound.

For a sound schema the reader can be forgotten: `normalize_eq` says outright which records are
refused, for which field, and which fields the normal form of the others has, as look-ups in
the record. Everything else is read off that form, again through `Fields.get?`: `Lossless`
collects it, and `Schema.restored` undoes the renaming and merges the properties back.

One field is lost whatever the schema: the one that names an ancestor is not copied into the
reader, so it is not among the properties. Forms are lossless for the record without it, and for
the record itself iff it has no such field.
-/
import MagnumClient.Proofs.Inheritance
import MagnumClient.Record.Normalize

namespace MagnumClient

namespace Record

open Fields (get? has select eraseAll)
open Json (Ancestor ancestorName)

/-! ## 1. Reading by a list of keys -/

/-- Reading optional fields, each asked for once, is selecting them. -/
theorem takeOptional_eq {keys : List String} (h : keys.Nodup) (r : Reader) :
    takeOptional keys r =
      (select keys r.remaining, { r with remaining := eraseAll keys r.remaining }) := by
  induction keys generalizing r with
  | nil => simp [takeOptional, select, Fields.eraseAll_nil]
  | cons key keys ih =>
    obtain ⟨hnew, hkeys⟩ := List.nodup_cons.mp h
    cases hv : get? key r.remaining with
    | none =>
      have herase : eraseAll (key :: keys) r.remaining = eraseAll keys r.remaining := by
        rw [Fields.eraseAll_cons, Fields.erase_eq_self hv]
      simp [takeOptional, Reader.takeOwn?_eq, hv, ih hkeys, select, herase]
    | some v =>
      -- the keys still to come are not the one just taken, so they are there as before
      have hsel : select keys (Fields.erase key r.remaining) = select keys r.remaining := by
        rw [Fields.erase_eq_eraseAll]
        refine Fields.select_eraseAll (fun other hother hn => ?_) _
        obtain rfl := List.mem_singleton.mp hn
        exact hnew hother
      simp [takeOptional, Reader.takeOwn?_eq, hv, ih hkeys, hsel, Fields.eraseAll_cons]
      simp [select, hv]

/-- Reading fields wherever they are found, each asked for once. -/
theorem takeFound_eq {keys : List String} (h : keys.Nodup) (r : Reader) :
    takeFound keys r =
      (keys.filterMap fun key => ((r.find? key).bind Found.value?).map fun v => (key, v),
        { r with remaining := eraseAll keys r.remaining }) := by
  induction keys generalizing r with
  | nil => simp [takeFound, Fields.eraseAll_nil]
  | cons key keys ih =>
    obtain ⟨hnew, hkeys⟩ := List.nodup_cons.mp h
    -- what the other keys find is not what has just been taken
    have hother : (keys.filterMap fun other =>
          (((r.take key).2.find? other).bind Found.value?).map fun v => (other, v)) =
        keys.filterMap fun other =>
          ((r.find? other).bind Found.value?).map fun v => (other, v) := by
      refine List.filterMap_congr fun other hmem => ?_
      have hne : key ≠ other := fun he => hnew (he ▸ hmem)
      rw [Reader.value?_find?, Reader.value?_find?, Reader.get?_take, if_neg hne]
      rfl
    simp only [takeFound, ih hkeys, hother, List.filterMap_cons, Fields.eraseAll_cons]
    cases (r.find? key).bind Found.value? <;> rfl

/-- Required fields, with their values in a record; a field that is missing is left out. -/
def held (fs : List Required) (fields : Fields) : List (Required × Json) :=
  fs.filterMap fun f => (get? f.key fields).map fun v => (f, v)

theorem held_eraseAll {fs : List Required} {banned : List String}
    (h : ∀ f ∈ fs, f.key ∉ banned) (fields : Fields) :
    held fs (eraseAll banned fields) = held fs fields := by
  refine List.filterMap_congr fun f hf => ?_
  rw [Fields.get?_eraseAll, if_neg (h f hf)]

/-- The first of some required fields that a record does not have. -/
def missing? (fs : List Required) (fields : Fields) : Option Required :=
  fs.find? fun f => !has f.key fields

theorem missing?_eq_none_iff {fs : List Required} {fields : Fields} :
    missing? fs fields = none ↔ ∀ f ∈ fs, has f.key fields = true := by
  simp [missing?]

theorem missing?_eraseAll {fs : List Required} {banned : List String}
    (h : ∀ f ∈ fs, f.key ∉ banned) (fields : Fields) :
    missing? fs (eraseAll banned fields) = missing? fs fields := by
  induction fs with
  | nil => rfl
  | cons f fs ih =>
    obtain ⟨hf, hfs⟩ := List.forall_mem_cons.mp h
    have hhas : has f.key (eraseAll banned fields) = has f.key fields := by
      rw [has, Fields.get?_eraseAll, if_neg hf, has]
    unfold missing? at ih ⊢
    rw [List.find?_cons, List.find?_cons, hhas, ih hfs]

/-- Reading required fields, each asked for once, fails for the first that is missing, and
otherwise gives their values. -/
theorem takeRequired_eq {fs : List Required} (h : (fs.map Required.key).Nodup) (r : Reader) :
    takeRequired fs r =
      match missing? fs r.remaining with
      | some f => .error (.malformed r.resource f.key)
      | none => .ok (held fs r.remaining,
          { r with remaining := eraseAll (fs.map Required.key) r.remaining }) := by
  induction fs generalizing r with
  | nil => simp [takeRequired, missing?, held, Fields.eraseAll_nil]
  | cons f fs ih =>
    obtain ⟨hnew, hfs⟩ := List.nodup_cons.mp h
    cases hv : get? f.key r.remaining with
    | none => simp [takeRequired, Reader.required, Reader.takeOwn?_eq, hv, missing?, has]
    | some v =>
      -- the fields still to come are not the one just taken, so they are there as before
      have hother : ∀ g ∈ fs, g.key ∉ [f.key] := fun g hg hn =>
        hnew (List.mem_singleton.mp hn ▸ List.mem_map_of_mem hg)
      have hstep : r.required f.key =
          .ok (v, { r with remaining := Fields.erase f.key r.remaining }) := by
        simp [Reader.required, Reader.takeOwn?_eq, hv]
      have hmissing : missing? (f :: fs) r.remaining = missing? fs r.remaining := by
        simp [missing?, has, hv]
      have hheld : held (f :: fs) r.remaining = (f, v) :: held fs r.remaining := by
        simp [held, hv]
      have hih := ih hfs { r with remaining := Fields.erase f.key r.remaining }
      rw [Fields.erase_eq_eraseAll, missing?_eraseAll hother, held_eraseAll hother,
        ← Fields.erase_eq_eraseAll, ← Fields.eraseAll_cons] at hih
      simp only [takeRequired, hstep, hih, hmissing, hheld, List.map_cons]
      cases missing? fs r.remaining <;> rfl

/-- What is held of required fields is known by their names. -/
theorem names_shown_held (fs : List Required) (fields : Fields) :
    Fields.names (shown (held fs fields)) =
      (fs.filter fun f => has f.key fields).map Required.name := by
  induction fs with
  | nil => rfl
  | cons f fs ih =>
    cases hv : get? f.key fields with
    | none => simpa [held, has, hv] using ih
    | some v => simpa [held, shown, Fields.names, has, hv] using ih

/-! ## 2. Sound schemas -/

/-- The names that fields of a normal form can have. -/
def Schema.names (s : Schema) : List String :=
  s.required.map Required.name ++ ["location"] ++ s.optional ++ ["properties"]

/-- Nothing that is read by the schema gets in the way of anything else. -/
structure Schema.Sound (s : Schema) : Prop where
  /-- No field is asked for twice. -/
  once : s.keys.Nodup
  /-- No field that is asked for was dropped before. -/
  heard : ∀ key ∈ s.keys, key ∉ dropped
  /-- No two fields are shown under one name. -/
  apart : s.names.Nodup

instance (s : Schema) : Decidable s.Sound :=
  decidable_of_iff (s.keys.Nodup ∧ (∀ key ∈ s.keys, key ∉ dropped) ∧ s.names.Nodup)
    ⟨fun h => ⟨h.1, h.2.1, h.2.2⟩, fun h => ⟨h.once, h.heard, h.apart⟩⟩

/-- The keys in the order in which they are dropped or read. -/
def Schema.order (s : Schema) : List String :=
  dropped ++ s.required.map Required.key ++ s.withheld ++ s.optional

theorem Schema.order_perm (s : Schema) : s.order.Perm (dropped ++ s.keys) := by
  have hswap : (s.withheld ++ s.optional).Perm (s.optional ++ s.withheld) :=
    List.perm_append_comm
  simpa [order, keys] using (hswap.append_left (s.required.map Required.key)).append_left dropped

/-- Whatever is asked for is asked for once, and was not dropped before. -/
theorem Schema.Sound.order_nodup {s : Schema} (h : s.Sound) : s.order.Nodup := by
  have hdropped : dropped.Nodup := by decide
  have hnew : ∀ key ∈ dropped, ∀ other ∈ s.keys, key ≠ other :=
    fun key hkey other hother he => h.heard other hother (he ▸ hkey)
  exact s.order_perm.nodup_iff.mpr (List.nodup_append.mpr ⟨hdropped, h.once, hnew⟩)

theorem cluster_sound : cluster.Sound := by decide

theorem clusterTemplate_sound : clusterTemplate.Sound := by decide

theorem service_sound : service.Sound := by decide

/-- The schema has no legacy names. -/
def Schema.Modern (s : Schema) : Prop := (∀ f ∈ s.required, f.renamed = none) ∧ s.withheld = []

instance (s : Schema) : Decidable s.Modern :=
  inferInstanceAs (Decidable ((∀ f ∈ s.required, f.renamed = none) ∧ s.withheld = []))

theorem service_modern : service.Modern := by decide

/-- The normal form of a record under a sound schema, without legacy names. -/
def Schema.form (s : Schema) (location : Json) (record : Fields) : Fields :=
  shown (held s.required record) ++ [("location", location)] ++ select s.optional record ++
    [("properties", .obj (eraseAll (dropped ++ s.keys) record))]

/-- The normal form of a record under a sound schema, with legacy names. -/
def Schema.looseForm (s : Schema) (location : Json) (record : Fields) : Fields :=
  shown (held s.required record) ++ [("location", location)] ++
    legacy (held s.required record) (hearing s.withheld record) ++ select s.optional record ++
    [("properties", .obj (eraseAll (dropped ++ s.keys) record))]

/-- Under a sound schema, a record has a normal form unless it lacks a required field, and the
form is told by look-ups in the record. -/
theorem normalize_eq {s : Schema} (h : s.Sound) (strict : Bool) (location record : Json) :
    normalize s strict location record =
      match missing? s.required record.ownFields with
      | some f => .error (.malformed s.resource f.key)
      | none => .ok (.obj (if strict then s.form location record.ownFields
          else s.looseForm location record.ownFields)) := by
  obtain ⟨hthree, hoptional, hlast⟩ := List.nodup_append.mp h.order_nodup
  obtain ⟨htwo, hwithheld, hmiddle⟩ := List.nodup_append.mp hthree
  obtain ⟨-, hrequired, hfirst⟩ := List.nodup_append.mp htwo
  -- what was dropped or taken before does not hide what is asked for next
  have hasked : ∀ f ∈ s.required, f.key ∉ dropped :=
    fun f hf hn => hfirst _ hn _ (List.mem_map_of_mem hf) rfl
  have hhearing : (s.withheld.filterMap fun key => ((Reader.find? key
        ⟨s.resource, eraseAll (dropped ++ s.required.map Required.key) record.ownFields,
          .of (get? ancestorName record.ownFields)⟩).bind Found.value?).map fun v => (key, v)) =
      hearing s.withheld record.ownFields := by
    refine List.filterMap_congr fun key hkey => ?_
    rw [Reader.value?_find?, Fields.get?_eraseAll, if_neg fun hn => hmiddle _ hn _ hkey rfl,
      heard?]
  have hselOptional : select s.optional
        (eraseAll (dropped ++ s.required.map Required.key ++ s.withheld) record.ownFields) =
      select s.optional record.ownFields :=
    Fields.select_eraseAll (fun key hkey hn => hlast _ hn _ hkey rfl) _
  have hrest : eraseAll (dropped ++ s.required.map Required.key ++ s.withheld ++ s.optional)
        record.ownFields = eraseAll (dropped ++ s.keys) record.ownFields :=
    Fields.eraseAll_congr (fun _ => s.order_perm.mem_iff) _
  unfold normalize
  rw [takeRequired_eq hrequired, Reader.start_eq, missing?_eraseAll hasked, held_eraseAll hasked,
    Fields.eraseAll_eraseAll]
  cases missing? s.required record.ownFields with
  | some f => rfl
  | none =>
    simp only [takeFound_eq hwithheld, takeOptional_eq hoptional, Fields.eraseAll_eraseAll,
      Reader.rest, hhearing, hselOptional, hrest]
    cases strict <;> simp [Schema.form, Schema.looseForm]

/-- What is shown under legacy names by a schema that has none. -/
theorem legacy_eq_nil {s : Schema} (h : s.Modern) (record : Fields) :
    legacy (held s.required record) (hearing s.withheld record) = [] := by
  have hold : (held s.required record).filter (fun t => t.1.renamed.isSome) = [] := by
    refine List.filter_eq_nil_iff.mpr fun t ht => ?_
    obtain ⟨f, hf, hv⟩ := List.mem_filterMap.mp ht
    obtain ⟨v, -, rfl⟩ := Option.map_eq_some_iff.mp hv
    simp [h.1 f hf]
  rw [legacy, hold, h.2]
  rfl

/-- Without legacy names, the records that have a normal form are those with all the required
fields. -/
theorem normalize_eq_ok_iff {s : Schema} (h : s.Sound) {strict : Bool}
    (hlegacy : strict = true ∨ s.Modern) (location record out : Json) :
    normalize s strict location record = .ok out ↔
      (∀ f ∈ s.required, has f.key record.ownFields = true) ∧
        out = .obj (s.form location record.ownFields) := by
  have hform : (if strict then s.form location record.ownFields
      else s.looseForm location record.ownFields) = s.form location record.ownFields := by
    rcases hlegacy with rfl | hm
    · rfl
    · simp [Schema.form, Schema.looseForm, legacy_eq_nil hm]
  rw [normalize_eq h, hform, ← missing?_eq_none_iff]
  cases missing? s.required record.ownFields with
  | some f => simp
  | none => simp [eq_comm]

/-! ## 3. What a normal form says -/

/-- A form says nothing under other names than those of its schema. -/
theorem Schema.names_form_sublist (s : Schema) (location : Json) (record : Fields) :
    (Fields.names (s.form location record)).Sublist s.names := by
  simp only [form, names, Fields.names_append, names_shown_held, Fields.names_select]
  exact (((List.filter_sublist.map _).append (List.Sublist.refl _)).append
    List.filter_sublist).append (List.Sublist.refl _)

theorem Schema.Sound.form_distinct {s : Schema} (h : s.Sound) (location : Json)
    (record : Fields) : Fields.Distinct (s.form location record) :=
  h.apart.sublist (s.names_form_sublist location record)

theorem Schema.Sound.get?_form_properties {s : Schema} (h : s.Sound) (location : Json)
    (record : Fields) : get? "properties" (s.form location record) =
      some (.obj (eraseAll (dropped ++ s.keys) record)) :=
  Fields.get?_eq_some_of_mem (h.form_distinct ..) (by simp [form])

/-- What the record has for a required field is shown under the field's name. -/
theorem Schema.Sound.form_required {s : Schema} (h : s.Sound) (location : Json) {record : Fields}
    (hall : ∀ f ∈ s.required, has f.key record = true) {f : Required} (hf : f ∈ s.required) :
    ∃ v, get? f.key record = some v ∧ get? f.name (s.form location record) = some v := by
  obtain ⟨v, hv⟩ := Option.isSome_iff_exists.mp (hall f hf)
  have hheld : (f, v) ∈ held s.required record :=
    List.mem_filterMap.mpr ⟨f, hf, by rw [hv]; rfl⟩
  have hshown : (f.name, v) ∈ shown (held s.required record) :=
    List.mem_map.mpr ⟨(f, v), hheld, rfl⟩
  exact ⟨v, hv, Fields.get?_eq_some_of_mem (h.form_distinct ..) (by simp [form, hshown])⟩

/-- The key, in the record, of a field that a normal form shows under a name. -/
def Schema.keyOf (s : Schema) (name : String) : String :=
  match s.required.find? fun f => f.name == name with
  | some f => f.key
  | none => name

/-- A normal form taken back: its fields go by the keys of the record again, and the
properties are merged over them. -/
def Schema.restored (s : Schema) (form : Fields) : Fields :=
  Fields.overlay ((eraseAll ["location", "properties"] form).map fun f => (s.keyOf f.1, f.2))
    (((get? "properties" form).bind Json.fields?).getD [])

/-- A required field is not shown as the location or the properties. -/
theorem Schema.Sound.name_apart {s : Schema} (h : s.Sound) {f : Required} (hf : f ∈ s.required) :
    f.name ∉ ["location", "properties"] := by
  have hnames := h.apart
  simp only [names, List.append_assoc, List.nodup_append] at hnames
  intro hn
  exact hnames.2.2 _ (List.mem_map_of_mem hf) f.name (by simp at hn ⊢; tauto) rfl

/-- An optional field is not shown as the location, the properties or a required field. -/
theorem Schema.Sound.optional_apart {s : Schema} (h : s.Sound) {key : String}
    (hkey : key ∈ s.optional) :
    key ∉ ["location", "properties"] ∧ ∀ f ∈ s.required, f.name ≠ key := by
  have hnames := h.apart
  simp only [names, List.append_assoc, List.nodup_append] at hnames
  obtain ⟨-, ⟨-, ⟨-, -, hprops⟩, hloc⟩, hreq⟩ := hnames
  constructor
  · have hne : key ≠ "location" := fun he => hloc "location" (by simp) key (by simp [hkey]) he.symm
    have hne' : key ≠ "properties" := hprops key hkey "properties" (by simp)
    simp [hne, hne']
  · exact fun f hf => hreq f.name (List.mem_map_of_mem hf) key (by simp [hkey])

theorem Schema.Sound.keyOf_name {s : Schema} (h : s.Sound) {f : Required} (hf : f ∈ s.required) :
    s.keyOf f.name = f.key := by
  have hnames : (s.required.map Required.name).Nodup :=
    h.apart.sublist (by simp [Schema.names])
  cases hfound : s.required.find? fun g => g.name == f.name with
  | none => simpa using List.find?_eq_none.mp hfound f hf
  | some g =>
    have hname : g.name = f.name := by simpa using List.find?_some hfound
    have hsame : g = f :=
      List.inj_on_of_nodup_map hnames (List.mem_of_find?_eq_some hfound) hf hname
    rw [Schema.keyOf, hfound, hsame]

theorem Schema.Sound.keyOf_optional {s : Schema} (h : s.Sound) {key : String}
    (hkey : key ∈ s.optional) : s.keyOf key = key := by
  have hnone : (s.required.find? fun g => g.name == key) = none :=
    List.find?_eq_none.mpr fun g hg => by simpa using (h.optional_apart hkey).2 g hg
  rw [Schema.keyOf, hnone]

/-- The form of a record under the keys of the record. -/
theorem Schema.Sound.rekeyed {s : Schema} (h : s.Sound) (location : Json) (record : Fields) :
    (eraseAll ["location", "properties"] (s.form location record)).map
        (fun f => (s.keyOf f.1, f.2)) =
      select (s.required.map Required.key ++ s.optional) record := by
  have hshown : eraseAll ["location", "properties"] (shown (held s.required record)) =
      shown (held s.required record) := by
    refine Fields.eraseAll_eq_self fun name hname => ?_
    rw [names_shown_held] at hname
    obtain ⟨f, hf, rfl⟩ := List.mem_map.mp hname
    exact h.name_apart (List.mem_of_mem_filter hf)
  have hselect : eraseAll ["location", "properties"] (select s.optional record) =
      select s.optional record := by
    refine Fields.eraseAll_eq_self fun name hname => ?_
    rw [Fields.names_select] at hname
    exact (h.optional_apart (List.mem_of_mem_filter hname)).1
  have hkeys : (shown (held s.required record)).map (fun f => (s.keyOf f.1, f.2)) =
      select (s.required.map Required.key) record := by
    rw [shown, held, select, List.filterMap_map, List.map_map, List.map_filterMap]
    refine List.filterMap_congr fun f hf => ?_
    simp [Function.comp_def, h.keyOf_name hf]
  have hoptional : (select s.optional record).map (fun f => (s.keyOf f.1, f.2)) =
      select s.optional record := by
    rw [select, List.map_filterMap]
    refine List.filterMap_congr fun key hkey => ?_
    simp [Function.comp_def, h.keyOf_optional hkey]
  have hlocation : eraseAll ["location", "properties"] [("location", location)] = [] := by
    simp [eraseAll]
  have hproperties (v : Json) : eraseAll ["location", "properties"] [("properties", v)] = [] := by
    simp [eraseAll]
  simp only [form, Fields.eraseAll_append, hshown, hselect, hlocation, hproperties,
    List.append_nil, List.map_append, hkeys, hoptional, Fields.select_append]

/-- The form of a record loses and invents nothing: what the record has for a field of the
schema is shown under the field's name, everything else is among the properties, and there is
nothing else but the location. -/
structure Lossless (s : Schema) (location : Json) (record form : Fields) : Prop where
  /-- No name is said twice. -/
  distinct : Fields.Distinct form
  required : ∀ f ∈ s.required, ∃ v, get? f.key record = some v ∧ get? f.name form = some v
  optional : ∀ key ∈ s.optional, get? key form = get? key record
  location : get? "location" form = some location
  properties : get? "properties" form = some (.obj (eraseAll (noise ++ s.keys) record))
  /-- No other name is said. -/
  other : ∀ name, name ∉ s.names → get? name form = none
  /-- The record can be had back but for what is dropped, if it is one that says each name
  once. -/
  restored : Fields.Distinct record →
    (s.restored form).Perm (eraseAll (noise ++ s.withheld) record)

/-- The record is had back from its form. -/
theorem Schema.Sound.form_restored {s : Schema} (h : s.Sound) (location : Json)
    {record : Fields} (hd : Fields.Distinct record) :
    (s.restored (s.form location record)).Perm (eraseAll (dropped ++ s.withheld) record) := by
  have hrestored : s.restored (s.form location record) =
      Fields.overlay (select (s.required.map Required.key ++ s.optional) record)
        (eraseAll (dropped ++ s.keys) record) := by
    rw [restored, h.rekeyed, h.get?_form_properties]
    rfl
  have hkeys : (s.required.map Required.key ++ s.optional).Nodup :=
    h.once.sublist (List.sublist_append_left _ _)
  have hbase : Fields.Distinct (select (s.required.map Required.key ++ s.optional) record) := by
    rw [Fields.Distinct, Fields.names_select]
    exact hkeys.filter _
  refine Fields.perm_of_get?_eq (hrestored ▸ Fields.overlay_distinct hbase _)
    (Fields.eraseAll_distinct hd _) fun name => ?_
  rw [hrestored, Fields.get?_overlay _ _ (Fields.eraseAll_distinct hd _), Fields.get?_select,
    Fields.get?_eraseAll, Fields.get?_eraseAll]
  have hkey : name ∈ s.keys ↔ name ∈ s.required.map Required.key ++ s.optional ∨
      name ∈ s.withheld := List.mem_append
  simp only [List.mem_append (s := dropped)]
  -- a name that is shown is neither dropped nor kept back; any other is read the same either way
  by_cases hs : name ∈ s.required.map Required.key ++ s.optional
  · have hdropped : name ∉ dropped := h.heard name (hkey.mpr (.inl hs))
    have hwithheld : name ∉ s.withheld :=
      fun hw => (List.nodup_append.mp h.once).2.2 _ hs _ hw rfl
    rw [if_pos (.inr (hkey.mpr (.inl hs))), if_pos hs, if_neg (not_or.mpr ⟨hdropped, hwithheld⟩)]
    rfl
  · rw [if_neg hs, Option.or_none]
    simp only [hkey, or_iff_right hs]

theorem Schema.Sound.form_lossless {s : Schema} (h : s.Sound) {location : Json}
    {record : Fields} (hall : ∀ f ∈ s.required, has f.key record = true)
    (hunnamed : ancestorName ∉ Fields.names record) :
    Lossless s location record (s.form location record) where
  distinct := h.form_distinct location record
  required _ hf := h.form_required location hall hf
  optional key hkey := by
    obtain ⟨hne, hreq⟩ := h.optional_apart hkey
    have hshown : get? key (shown (held s.required record)) = none := by
      refine Fields.get?_eq_none_iff.mpr fun hn => ?_
      rw [names_shown_held] at hn
      obtain ⟨f, hf, hname⟩ := List.mem_map.mp hn
      exact hreq f (List.mem_of_mem_filter hf) hname
    simp only [List.mem_cons, List.not_mem_nil, or_false, not_or] at hne
    simp [form, Fields.get?_append, hshown, Fields.get?_cons, Fields.get?_select, hkey,
      Ne.symm hne.1, Ne.symm hne.2]
  location := Fields.get?_eq_some_of_mem (h.form_distinct ..) (by simp [form])
  properties := by
    rw [h.get?_form_properties, (eraseAll_dropped_eq_iff _ _).mpr (.inl hunnamed)]
  other name hname := Fields.get?_eq_none_iff.mpr fun hn =>
    hname ((s.names_form_sublist location record).subset hn)
  restored hd := by
    rw [← (eraseAll_dropped_eq_iff _ _).mpr (.inl hunnamed)]
    exact h.form_restored location hd

/-- A form does not tell whether the record names an ancestor. -/
theorem Schema.Sound.form_erase {s : Schema} (h : s.Sound) (location : Json) (record : Fields) :
    s.form location (Fields.erase ancestorName record) = s.form location record := by
  have hne : ∀ key ∈ s.keys, key ∉ [ancestorName] := fun key hkey hn =>
    h.heard key hkey (List.mem_append_right _ hn)
  have hrequired : ∀ f ∈ s.required, f.key ∉ [ancestorName] := fun f hf =>
    hne _ (List.mem_append_left _ (List.mem_append_left _ (List.mem_map_of_mem hf)))
  have hoptional : ∀ key ∈ s.optional, key ∉ [ancestorName] := fun key hkey =>
    hne _ (List.mem_append_left _ (List.mem_append_right _ hkey))
  have hleft : eraseAll (dropped ++ s.keys) (eraseAll [ancestorName] record) =
      eraseAll (dropped ++ s.keys) record := by
    rw [← Fields.erase_eq_eraseAll, Fields.eraseAll_erase (by simp [dropped])]
  simp only [form, Fields.erase_eq_eraseAll, held_eraseAll hrequired,
    Fields.select_eraseAll hoptional, hleft]

/-- The form of a record is lossless for the record without the field that names an ancestor, and
for the record itself iff it has no such field. -/
theorem Schema.Sound.form_lossless_iff {s : Schema} (h : s.Sound) {location : Json}
    {record : Fields} (hall : ∀ f ∈ s.required, has f.key record = true) :
    Lossless s location (Fields.erase ancestorName record) (s.form location record) ∧
      (Lossless s location record (s.form location record) ↔
        ancestorName ∉ Fields.names record) := by
  have hunnamed : ancestorName ∉ Fields.names (Fields.erase ancestorName record) :=
    Fields.get?_eq_none_iff.mp (by simp)
  have hsame : ∀ f ∈ s.required, has f.key (Fields.erase ancestorName record) = true := by
    intro f hf
    have hne : ancestorName ≠ f.key := fun he => h.heard f.key
      (List.mem_append_left _ (List.mem_append_left _ (List.mem_map_of_mem hf)))
      (he ▸ List.mem_append_right _ List.mem_cons_self)
    rw [has, Fields.get?_erase, if_neg hne]
    exact hall f hf
  refine ⟨h.form_erase location record ▸ h.form_lossless hsame hunnamed, fun hless => ?_,
    h.form_lossless hall⟩
  have hproperties := (h.get?_form_properties location record).symm.trans hless.properties
  have hleft : eraseAll (dropped ++ s.keys) record = eraseAll (noise ++ s.keys) record := by
    simpa using hproperties
  refine ((eraseAll_dropped_eq_iff _ _).mp hleft).resolve_right fun hkey => ?_
  exact h.heard _ hkey (List.mem_append_right _ List.mem_cons_self)

end Record

end MagnumClient
