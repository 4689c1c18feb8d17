/-
MagnumClient.Proofs.Legacy — what strict mode hides.

A record is read in the same way in both modes: fields are taken for their legacy names whether
or not these are shown. So the modes refuse the same records for the same reasons, and leave the
same properties. All that the looser mode adds are fields under legacy names, with values that
the strict form shows under new names, and the field of a template that is kept back.

That the added fields are only added, and take no other's place, is told by the schema alone
(`Schema.names_apart`): no legacy name is a name of the strict form, and no two are the same.
A record can still have fields of any of these names. They are then fields of the schema, or
among the properties, and in neither case in the way.

The field that is kept back is read without a look whether it is there. A record that does not
have it, but names an ancestor that does, says what its ancestor says (`floating?`).
-/
import MagnumClient.Proofs.Lossless

namespace MagnumClient

namespace Record

open Fields (get? has select eraseAll Distinct)
open Json (Ancestor ancestorName)

/-- Two records that differ in nothing but noise have the same normal form. -/
theorem normalize_congr {record other : Json}
    (h : eraseAll noise other.ownFields = eraseAll noise record.ownFields) (s : Schema)
    (strict : Bool) (location : Json) :
    normalize s strict location other = normalize s strict location record := by
  have hstart : Reader.start s.resource other = Reader.start s.resource record := by
    rw [Reader.start, h, Reader.start]
  rw [normalize, hstart, normalize]

/-! ## 1. Legacy names -/

/-- The fields that the strict form of a record shows under a new name. -/
def Schema.renewed (s : Schema) : List Required := s.required.filter fun f => f.renamed.isSome

/-- The names that strict mode hides. -/
def Schema.legacyNames (s : Schema) : List String := s.renewed.map Required.key ++ s.withheld

theorem Schema.sound_of_mem {s : Schema} (h : s ∈ [cluster, clusterTemplate]) : s.Sound := by
  simp only [List.mem_cons, List.not_mem_nil, or_false] at h
  rcases h with rfl | rfl
  exacts [cluster_sound, clusterTemplate_sound]

/-- No legacy name is the name of something else. -/
theorem Schema.names_apart {s : Schema} (h : s ∈ [cluster, clusterTemplate]) :
    (s.names ++ s.legacyNames).Nodup := by
  simp only [List.mem_cons, List.not_mem_nil, or_false] at h
  rcases h with rfl | rfl <;> decide

theorem filter_held (p : Required → Bool) (fs : List Required) (record : Fields) :
    (held fs record).filter (fun t => p t.1) = held (fs.filter p) record := by
  induction fs with
  | nil => rfl
  | cons f fs ih =>
    cases hv : get? f.key record with
    | none => cases hp : p f <;> simpa [held, hv, hp] using ih
    | some v => cases hp : p f <;> simpa [held, hv, hp] using ih

/-- What is shown under legacy names, told by the fields that it stands for. -/
theorem legacy_eq (s : Schema) (record : Fields) :
    legacy (held s.required record) (hearing s.withheld record) =
      (held s.renewed record).map (fun t => (t.1.key, t.2)) ++
        (hearing s.withheld record).filter fun f => !f.2.isNull := by
  rw [legacy, filter_held fun f => f.renamed.isSome]
  rfl

theorem names_legacy_sublist (s : Schema) (record : Fields) :
    (Fields.names (legacy (held s.required record) (hearing s.withheld record))).Sublist
      s.legacyNames := by
  have hrenewed : Fields.names ((held s.renewed record).map fun t => (t.1.key, t.2)) =
      (s.renewed.filter fun f => has f.key record).map Required.key := by
    generalize s.renewed = fs
    induction fs with
    | nil => rfl
    | cons f fs ih =>
      cases hv : get? f.key record with
      | none => simpa [held, has, hv] using ih
      | some v => simpa [held, Fields.names, has, hv] using ih
  have hwithheld : (Fields.names ((hearing s.withheld record).filter fun f => !f.2.isNull)).Sublist
      s.withheld := (List.filter_sublist.map _).trans (names_hearing_sublist ..)
  rw [legacy_eq, Fields.names_append, hrenewed]
  exact (List.filter_sublist.map _).append hwithheld

/-! ## 2. The two modes -/

theorem Schema.looseForm_perm (s : Schema) (location : Json) (record : Fields) :
    (s.looseForm location record).Perm (s.form location record ++
      legacy (held s.required record) (hearing s.withheld record)) := by
  simp only [looseForm, form, List.append_assoc]
  refine List.Perm.append_left _ (List.Perm.append_left _ ?_)
  rw [← List.append_assoc (select s.optional record)]
  exact List.perm_append_comm

/-- What the modes make of a record: both refuse it for the same reason, or the looser form is the
strict form with some fields beside it. Which these are is said of them and the strict form. -/
def Loosens (s : Schema) (location record : Json) (legacyOf : Fields → Fields → Prop) : Prop :=
  (∃ e, normalize s true location record = .error e ∧
    normalize s false location record = .error e) ∨
  ∃ strict loose added, normalize s true location record = .ok (.obj strict) ∧
    normalize s false location record = .ok (.obj loose) ∧
    legacyOf strict added ∧ loose.Perm (strict ++ added) ∧ Distinct loose ∧
    get? "properties" loose = get? "properties" strict

theorem loosens_of_legacy {s : Schema} (h : s ∈ [cluster, clusterTemplate])
    {location record : Json} {legacyOf : Fields → Fields → Prop}
    (hlegacy : (∀ f ∈ s.required, has f.key record.ownFields = true) →
      legacyOf (s.form location record.ownFields)
        (legacy (held s.required record.ownFields) (hearing s.withheld record.ownFields))) :
    Loosens s location record legacyOf := by
  have hsound := Schema.sound_of_mem h
  have hstrict := normalize_eq hsound true location record
  have hloose := normalize_eq hsound false location record
  cases hmissing : missing? s.required record.ownFields with
  | some f =>
    rw [hmissing] at hstrict hloose
    exact .inl ⟨_, hstrict, hloose⟩
  | none =>
    rw [hmissing] at hstrict hloose
    have hperm := s.looseForm_perm location record.ownFields
    have hdistinct : Distinct (s.form location record.ownFields ++
        legacy (held s.required record.ownFields) (hearing s.withheld record.ownFields)) := by
      rw [Distinct, Fields.names_append]
      exact (Schema.names_apart h).sublist
        ((s.names_form_sublist ..).append (names_legacy_sublist ..))
    refine .inr ⟨_, _, _, hstrict, hloose, hlegacy (missing?_eq_none_iff.mp hmissing), hperm,
      (hperm.map Prod.fst).nodup_iff.mpr hdistinct, ?_⟩
    show get? "properties" (s.looseForm location record.ownFields) =
      get? "properties" (s.form location record.ownFields)
    rw [Fields.get?_perm hdistinct hperm, Fields.get?_append, hsound.get?_form_properties,
      Option.some_or]

/-- What is added is told by the record, but for its order. -/
theorem Loosens.added_perm {s : Schema} {location record : Json} {p q : Fields → Fields → Prop}
    (hp : Loosens s location record p) (hq : Loosens s location record q)
    (hok : ∃ out, normalize s true location record = .ok out) :
    ∃ strict a b, p strict a ∧ q strict b ∧ a.Perm b := by
  obtain ⟨out, hout⟩ := hok
  obtain ⟨e, he, -⟩ | ⟨strict, loose, a, hstrict, hloose, ha, hperm, -⟩ := hp
  · cases hout.symm.trans he
  obtain ⟨e, he, -⟩ | ⟨strict', loose', b, hstrict', hloose', hb, hperm', -⟩ := hq
  · cases hout.symm.trans he
  cases hstrict.symm.trans hstrict'
  cases hloose.symm.trans hloose'
  exact ⟨strict, a, b, ha, hb, (List.perm_append_left_iff strict).mp (hperm.symm.trans hperm')⟩

/-- What a cluster shows outside strict mode only. -/
def ClusterLegacy (strict added : Fields) : Prop :=
  ∃ id, get? "id" strict = some id ∧ added = [("uuid", id)]

/-- What a template shows outside strict mode only. Whether it gives out floating addresses is not
in the strict form, so that is told besides; null says nothing. -/
def TemplateLegacy (floating : Option Json) (strict added : Fields) : Prop :=
  ∃ id isPublic isRegistryEnabled isTlsDisabled,
    get? "id" strict = some id ∧ get? "is_public" strict = some isPublic ∧
    get? "is_registry_enabled" strict = some isRegistryEnabled ∧
    get? "is_tls_disabled" strict = some isTlsDisabled ∧
    added = [("uuid", id), ("public", isPublic), ("registry_enabled", isRegistryEnabled),
        ("tls_disabled", isTlsDisabled)] ++
      match floating with
      | none => []
      | some .null => []
      | some v => [("floating_ip_enabled", v)]

theorem cluster_legacy {location : Json} {record : Fields}
    (hall : ∀ f ∈ cluster.required, has f.key record = true) :
    ClusterLegacy (cluster.form location record)
      (legacy (held cluster.required record) (hearing cluster.withheld record)) := by
  obtain ⟨id, hid, hid'⟩ :=
    cluster_sound.form_required location hall (f := renamed "uuid" "id") (by decide)
  refine ⟨id, hid', ?_⟩
  have hrenewed : cluster.renewed = [renamed "uuid" "id"] := by decide
  have hid : get? "uuid" record = some id := hid
  rw [legacy_eq, hrenewed]
  simp [held, renamed, hid, cluster, hearing]

theorem clusterTemplate_legacy {location : Json} {record : Fields}
    (hall : ∀ f ∈ clusterTemplate.required, has f.key record = true) :
    TemplateLegacy (heard? record "floating_ip_enabled") (clusterTemplate.form location record)
      (legacy (held clusterTemplate.required record)
        (hearing clusterTemplate.withheld record)) := by
  have hform {f : Required} (hf : f ∈ clusterTemplate.required) :=
    clusterTemplate_sound.form_required location hall hf
  obtain ⟨id, hid, hid'⟩ := hform (f := renamed "uuid" "id") (by decide)
  obtain ⟨isPublic, hpublic, hpublic'⟩ := hform (f := renamed "public" "is_public") (by decide)
  obtain ⟨isRegistryEnabled, hregistry, hregistry'⟩ :=
    hform (f := renamed "registry_enabled" "is_registry_enabled") (by decide)
  obtain ⟨isTlsDisabled, htls, htls'⟩ :=
    hform (f := renamed "tls_disabled" "is_tls_disabled") (by decide)
  refine ⟨id, isPublic, isRegistryEnabled, isTlsDisabled, hid', hpublic', hregistry', htls', ?_⟩
  have hrenewed : clusterTemplate.renewed =
      [renamed "uuid" "id", renamed "public" "is_public",
        renamed "registry_enabled" "is_registry_enabled",
        renamed "tls_disabled" "is_tls_disabled"] := by decide
  have hold : (held clusterTemplate.renewed record).map (fun t => (t.1.key, t.2)) =
      [("uuid", id), ("public", isPublic), ("registry_enabled", isRegistryEnabled),
        ("tls_disabled", isTlsDisabled)] := by
    simp only [renamed] at hid hpublic hregistry htls hrenewed
    simp [hrenewed, held, hid, hpublic, hregistry, htls]
  rw [legacy_eq, hold]
  congr 1
  show (hearing ["floating_ip_enabled"] record).filter (fun f => !f.2.isNull) = _
  cases hv : heard? record "floating_ip_enabled" with
  | none => simp [hearing, hv]
  | some v => cases v <;> simp [hearing, hv, Json.isNull]

/-! ## 3. What a template inherits -/

/-- What a template says about floating addresses: by itself, or by the record that it names as its
ancestor. -/
def floating? (record : Fields) : Option Json :=
  match get? "floating_ip_enabled" record with
  | some v => some v
  | none =>
    match get? ancestorName record with
    | some (.obj fields) => get? "floating_ip_enabled" fields
    | _ => none

theorem heard?_floating (record : Fields) :
    heard? record "floating_ip_enabled" = floating? record := by
  have hancestor : "floating_ip_enabled" ≠ ancestorName := by decide
  have hrecord : "floating_ip_enabled" ∉ Json.recordNames := by decide
  have hlist : "floating_ip_enabled" ∉ Json.listNames ++ Json.recordNames := by decide
  have hlength : "floating_ip_enabled" ≠ "length" := by decide
  unfold heard? floating?
  cases get? "floating_ip_enabled" record with
  | some v => rfl
  | none =>
    rw [Option.none_or]
    cases get? ancestorName record with
    | none => simp [Ancestor.of, Ancestor.find?, hrecord]
    | some v =>
      cases v with
      | obj fields =>
        cases hv : get? "floating_ip_enabled" fields <;>
          simp [Ancestor.of, Ancestor.find?, hv, hancestor, hrecord, Json.Member.value?]
      | arr items =>
        have hnone : get? "floating_ip_enabled" (Json.indexed items) = none :=
          get?_indexed_eq_none (c := 'f') (by decide) (by decide) items
        simp only [Ancestor.of, Ancestor.find?, hnone, if_neg hlength, if_neg hancestor,
          if_neg hlist, Option.bind_none]
      | null => rfl
      | bool b => simp [Ancestor.of, Ancestor.find?, hrecord]
      | num x => simp [Ancestor.of, Ancestor.find?, hrecord]
      | str t => simp [Ancestor.of, Ancestor.find?, hrecord]

/-- A template inherits what it says about floating addresses. -/
def InheritsFloating (record : Fields) : Prop :=
  get? "floating_ip_enabled" record = none ∧
    ∃ ancestor v, get? ancestorName record = some (.obj ancestor) ∧
      get? "floating_ip_enabled" ancestor = some v ∧ v.isNull = false

theorem floating?_of_not_inherits {record : Fields} (h : ¬ InheritsFloating record) :
    floating? record = get? "floating_ip_enabled" record ∨
      get? "floating_ip_enabled" record = none ∧ floating? record = some .null := by
  unfold floating?
  cases hown : get? "floating_ip_enabled" record with
  | some v => exact .inl rfl
  | none =>
    cases hancestor : get? ancestorName record with
    | none => exact .inl rfl
    | some ancestor =>
      cases ancestor with
      | obj fields =>
        cases hv : get? "floating_ip_enabled" fields with
        | none => exact .inl hv
        | some v =>
          have hnull : v.isNull = true := by
            by_contra hne
            exact h ⟨hown, fields, v, hancestor, hv, by simpa using hne⟩
          cases v <;> first | exact .inr ⟨rfl, hv⟩ | cases hnull
      | _ => exact .inl rfl

theorem TemplateLegacy.length {floating : Option Json} {strict added : Fields}
    (h : TemplateLegacy floating strict added) :
    added.length = if floating.all Json.isNull then 4 else 5 := by
  obtain ⟨_, _, _, _, -, -, -, -, rfl⟩ := h
  cases floating with
  | none => rfl
  | some v => cases v <;> rfl

theorem loosens_template (location record : Json) :
    Loosens clusterTemplate location record (TemplateLegacy (floating? record.ownFields)) :=
  loosens_of_legacy (by simp) fun hall => heard?_floating record.ownFields ▸
    clusterTemplate_legacy hall

/-- A template shows what it says about floating addresses by itself, unless it inherits that. -/
theorem loosens_template_iff (location record : Json) :
    Loosens clusterTemplate location record
        (TemplateLegacy (get? "floating_ip_enabled" record.ownFields)) ↔
      ¬ ((∀ f ∈ clusterTemplate.required, has f.key record.ownFields = true) ∧
        InheritsFloating record.ownFields) := by
  have htrue := loosens_template location record
  constructor
  · rintro hown ⟨hall, hnone, ancestor, v, hancestor, hv, hnull⟩
    have hok := (normalize_eq_ok_iff clusterTemplate_sound (.inl rfl) location record _).mpr
      ⟨hall, rfl⟩
    obtain ⟨_, a, b, ha, hb, hperm⟩ := htrue.added_perm hown ⟨_, hok⟩
    have hlength := hperm.length_eq
    rw [ha.length, hb.length] at hlength
    simp [floating?, hnone, hancestor, hv, hnull] at hlength
  · intro hnot
    refine loosens_of_legacy (by simp) fun hall => ?_
    have hlegacy := @clusterTemplate_legacy location _ hall
    rw [heard?_floating] at hlegacy
    obtain hown | ⟨hnone, hnull⟩ := floating?_of_not_inherits fun h => hnot ⟨hall, h⟩
    · rwa [hown] at hlegacy
    · rw [hnull] at hlegacy
      rw [hnone]
      exact hlegacy

end Record

end MagnumClient
