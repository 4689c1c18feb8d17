/-
MagnumClient.Proofs.FieldFilters — what a record of wanted fields asks of an entity.

A filter and an entity are two trees, and `meets` walks down both at once. What it asks is said
here without the walk, by the paths of keys in the filter (`Wanted.Leads`). Where a path leads to
a record, empty or not, the entity must hold a record there that is not empty; where it leads to
any other value, the entity must hold the same value, null and nothing being the same
(`Wanted.MetBy`). Both rules speak of one path at a time, so a filter asks field by field
(`accepts_iff`), and asking for the fields of two filters is asking for one and then the other.

Nothing is the same as null but for the few names that all records answer for. A value that is
wanted under such a name is found only where a record has a field of that name
(`Wanted.Unhidden`).

An entity meets itself where its own records are not empty, since each of its values is the same
as itself (`Json.same_self`). That needs that no record says a name twice (`Json.Proper`), as no
document does that was read or built by `Fields.put`.
-/
import MagnumClient.Proofs.Lookups
import MagnumClient.Proofs.Selecting

namespace MagnumClient

/-! ## 1. Documents -/

namespace Json

mutual

/-- No record of a document says a name twice. -/
def Proper : Json → Prop
  | .arr items => ProperItems items
  | .obj fields => Fields.Distinct fields ∧ ProperFields fields
  | _ => True

def ProperItems : List Json → Prop
  | [] => True
  | v :: rest => Proper v ∧ ProperItems rest

def ProperFields : List (String × Json) → Prop
  | [] => True
  | (_, v) :: rest => Proper v ∧ ProperFields rest

end

theorem ProperFields.of_mem {fields : Fields} (h : ProperFields fields) {key : String} {v : Json}
    (hmem : (key, v) ∈ fields) : v.Proper := by
  induction fields with
  | nil => cases hmem
  | cons f rest ih =>
    rcases List.mem_cons.mp hmem with rfl | hrest
    · exact h.1
    · exact ih h.2 hrest

mutual

/-- A document is the same as itself. -/
theorem same_self : ∀ v : Json, v.Proper → same v v = true
  | .null, _ => rfl
  | .bool b, _ => beq_self_eq_true b
  | .num x, _ => beq_self_eq_true x.toBits
  | .str s, _ => beq_self_eq_true s
  | .arr items, h => sameItems_self items h
  | .obj fields, h => by
    have hfields : sameFields fields fields = true :=
      sameFields_self fields h.2 fields fun p hp => Fields.get?_eq_some_of_mem h.1 hp
    simp [same, hfields]

theorem sameItems_self : ∀ items : List Json, ProperItems items → sameItems items items = true
  | [], _ => rfl
  | v :: rest, h => by simp [sameItems, same_self v h.1, sameItems_self rest h.2]

theorem sameFields_self : ∀ fields : List (String × Json), ProperFields fields →
    ∀ whole : Fields, (∀ p ∈ fields, Fields.get? p.1 whole = some p.2) →
      sameFields fields whole = true
  | [], _, _, _ => rfl
  | (key, v) :: rest, h, whole, hwhole => by
    obtain ⟨hv, hrest⟩ := List.forall_mem_cons.mp hwhole
    simp [sameFields, hv, same_self v h.1, sameFields_self rest h.2 whole hrest]

end

/-- The value at a path of keys, which goes through records alone; `none` if it is missing. -/
def at? : List String → Option Json → Option Json
  | [], v => v
  | key :: path, v => at? path (v.bind (field? key))

@[simp] theorem at?_none (path : List String) : at? path none = none := by
  induction path with
  | nil => rfl
  | cons key path ih => exact ih

theorem at?_append (path : List String) (key : String) (v : Option Json) :
    at? (path ++ [key]) v = (at? path v).bind (field? key) := by
  induction path generalizing v with
  | nil => rfl
  | cons first path ih => exact ih _

theorem at?_cons_of_mem {fields : Fields} (h : Fields.Distinct fields) {key : String} {v : Json}
    (hmem : (key, v) ∈ fields) (path : List String) :
    at? (key :: path) (some (.obj fields)) = at? path (some v) :=
  congrArg (at? path) (Fields.get?_eq_some_of_mem h hmem)

/-- A path that does not end where it begins goes into a field of a record. -/
theorem at?_cons_eq_some {key : String} {path : List String} {v part : Json}
    (h : at? (key :: path) (some v) = some part) :
    ∃ fields w, v = .obj fields ∧ (key, w) ∈ fields ∧ at? path (some w) = some part := by
  cases hfield : v.field? key with
  | none =>
    have hnone : at? (key :: path) (some v) = at? path none := congrArg (at? path) hfield
    rw [hnone, at?_none] at h
    cases h
  | some w =>
    have hsome : at? (key :: path) (some v) = at? path (some w) := congrArg (at? path) hfield
    cases v with
    | obj fields => exact ⟨fields, w, rfl, Fields.mem_of_get?_eq_some hfield, hsome ▸ h⟩
    | _ => cases hfield

theorem Proper.at? {v part : Json} {path : List String} (hv : v.Proper)
    (h : Json.at? path (some v) = some part) : part.Proper := by
  induction path generalizing v with
  | nil => exact Option.some.inj h ▸ hv
  | cons key path ih =>
    obtain ⟨fields, w, rfl, hmem, hrest⟩ := at?_cons_eq_some h
    exact ih (hv.2.of_mem hmem) hrest

end Json

namespace Selection

/-! ## 2. Paths of a filter -/

namespace Wanted

/-- A path of keys leads from what is wanted, through records, to a part of it. -/
inductive Leads : Wanted → List String → Wanted → Prop where
  | here (w : Wanted) : Leads w [] w
  | step {wanted : List (String × Wanted)} {key : String} {w part : Wanted} {path : List String}
    (hmem : (key, w) ∈ wanted) (h : Leads w path part) : Leads (.fields wanted) (key :: path) part

theorem leads_nil_iff {w part : Wanted} : w.Leads [] part ↔ w = part := by
  constructor
  · intro h
    cases h
    rfl
  · rintro rfl
    exact .here w

/-- A path that does not end where it begins goes into a field that is wanted. -/
theorem leads_cons_iff {w part : Wanted} {key : String} {path : List String} :
    w.Leads (key :: path) part ↔
      ∃ wanted inner, w = .fields wanted ∧ (key, inner) ∈ wanted ∧ inner.Leads path part := by
  constructor
  · intro h
    cases h with
    | step hmem hrest => exact ⟨_, _, rfl, hmem, hrest⟩
  · rintro ⟨wanted, inner, rfl, hmem, hrest⟩
    exact .step hmem hrest

/-- A value, `none` if missing, has what is wanted, place by place. -/
structure MetBy (w : Wanted) (actual : Option Json) : Prop where
  /-- Where a record is wanted, there is a record, and not an empty one. -/
  records : ∀ path wanted, w.Leads path (.fields wanted) →
    ∃ held, Json.at? path actual = some (.obj held) ∧ held ≠ []
  /-- Where another value is wanted, there is the same value; none is the same as null. -/
  values : ∀ path v, w.Leads path (.value v) →
    Json.same (orNull (Json.at? path actual)) (orNull (v.map Subtype.val)) = true

theorem metBy_value_iff {v : Option Leaf} {actual : Option Json} :
    (value v).MetBy actual ↔ Json.same (orNull actual) (orNull (v.map Subtype.val)) = true := by
  constructor
  · exact fun h => h.values [] v (.here _)
  · intro h
    constructor
    · intro path wanted hleads
      cases hleads
    · intro path v' hleads
      cases hleads
      exact h

/-- What a record of fields asks, it asks of the whole and of each of its fields. -/
theorem metBy_fields_iff {wanted : List (String × Wanted)} {actual : Option Json} :
    (fields wanted).MetBy actual ↔ (∃ held, actual = some (.obj held) ∧ held ≠ []) ∧
      ∀ p ∈ wanted, p.2.MetBy (actual.bind (Json.field? p.1)) := by
  constructor
  · intro h
    refine ⟨h.records [] wanted (.here _), fun p hp => ⟨?_, ?_⟩⟩
    · exact fun path inner hleads => h.records (p.1 :: path) inner (.step hp hleads)
    · exact fun path v hleads => h.values (p.1 :: path) v (.step hp hleads)
  · rintro ⟨hwhole, hparts⟩
    constructor
    · intro path inner hleads
      cases hleads with
      | here => exact hwhole
      | step hmem hrest => exact (hparts _ hmem).records _ _ hrest
    · intro path v hleads
      cases hleads with
      | step hmem hrest => exact (hparts _ hmem).values _ _ hrest

/-- Where a value is wanted, what all records have does not stand in its place: a record on whose
field it is has that field, unless records do not answer for the name anyway. -/
def Unhidden (w : Wanted) (actual : Option Json) : Prop :=
  ∀ path key v held, w.Leads (path ++ [key]) (.value v) →
    Json.at? path actual = some (.obj held) → key ∈ Fields.names held ∨ key ∉ Json.recordNames

theorem unhidden_value (v : Option Leaf) (actual : Option Json) : (value v).Unhidden actual := by
  intro path key v' held hleads
  cases path <;> cases hleads

/-- Of a record of fields, the values that are wanted in its own fields are to be seen, and those
that are wanted further down. -/
theorem unhidden_fields_iff {wanted : List (String × Wanted)} {held : Fields} :
    (fields wanted).Unhidden (some (.obj held)) ↔ ∀ p ∈ wanted,
      ((∃ v, p.2 = .value v) → p.1 ∈ Fields.names held ∨ p.1 ∉ Json.recordNames) ∧
        p.2.Unhidden (Fields.get? p.1 held) := by
  constructor
  · refine fun h p hp => ⟨?_, fun path key v inner hleads hinner => ?_⟩
    · rintro ⟨v, hv⟩
      exact h [] p.1 v held (.step (w := p.2) hp (hv ▸ .here _)) rfl
    · exact h (p.1 :: path) key v inner (.step hp hleads) hinner
  · rintro h (_ | ⟨first, path⟩) key v inner hleads hinner
    · obtain ⟨_, w, hwanted, hmem, hlast⟩ := leads_cons_iff.mp hleads
      cases hwanted
      cases hinner
      exact (h _ hmem).1 ⟨v, leads_nil_iff.mp hlast⟩
    · obtain ⟨_, w, hwanted, hmem, hrest⟩ := leads_cons_iff.mp hleads
      cases hwanted
      exact (h _ hmem).2 path key v inner hrest hinner

end Wanted

theorem inherits_eq_false_iff {key : String} {held : Fields} :
    inherits key held = false ↔ key ∈ Fields.names held ∨ key ∉ Json.recordNames := by
  have hhas : Fields.has key held = false ↔ key ∉ Fields.names held := by
    rw [Fields.has, Option.isSome_eq_false_iff, Option.isNone_iff_eq_none, Fields.get?_eq_none_iff]
  by_cases hrecord : key ∈ Json.recordNames <;>
    simp [inherits, Json.Ancestor.find?, hrecord, ← not_iff_not, hhas]

theorem meetsAll_iff {wanted : List (String × Wanted)} {held : Fields} :
    meetsAll wanted held = true ↔
      ∀ p ∈ wanted, inherits p.1 held = false ∧ meets p.2 (Fields.get? p.1 held) = true := by
  induction wanted with
  | nil => simp [meetsAll]
  | cons p rest ih =>
    rw [meetsAll, Bool.and_eq_true, ih, List.forall_mem_cons, Bool.and_eq_true,
      Bool.not_eq_true']

theorem meets_fields_iff {wanted : List (String × Wanted)} {actual : Option Json} :
    meets (.fields wanted) actual = true ↔ ∃ held, actual = some (.obj held) ∧ held ≠ [] ∧
      ∀ p ∈ wanted, inherits p.1 held = false ∧ meets p.2 (Fields.get? p.1 held) = true := by
  rcases actual with _ | v
  · simp [meets]
  · cases v with
    | obj held =>
      cases held with
      | nil => simp [meets]
      | cons f fs =>
        rw [meets, meetsAll_iff]
        simp
    | _ => simp [meets]

/-- Where a record is wanted and found, it is found in a field of its own. -/
theorem inherits_of_metBy_fields {key : String} {held : Fields} {wanted : List (String × Wanted)}
    (h : (Wanted.fields wanted).MetBy (Fields.get? key held)) : inherits key held = false := by
  obtain ⟨inner, hinner, -⟩ := h.records [] wanted (.here _)
  have hown : Fields.get? key held = some (.obj inner) := hinner
  exact inherits_eq_false_iff.mpr
    (.inl (List.mem_map_of_mem (Fields.mem_of_get?_eq_some hown)))

mutual

/-- What a filter asks is what the paths in it ask, of what is not hidden. -/
theorem meets_iff : ∀ (w : Wanted) (actual : Option Json),
    meets w actual = true ↔ w.MetBy actual ∧ w.Unhidden actual
  | .value v, actual => by
    rw [Wanted.metBy_value_iff, meets]
    exact (and_iff_left (Wanted.unhidden_value v actual)).symm
  | .fields wanted, actual => by
    rw [meets_fields_iff]
    constructor
    · rintro ⟨held, rfl, hne, hparts⟩
      have hpart (p) (hp : p ∈ wanted) := (meets_part_iff wanted p hp _).mp (hparts p hp).2
      exact ⟨Wanted.metBy_fields_iff.mpr ⟨⟨held, rfl, hne⟩, fun p hp => (hpart p hp).1⟩,
        Wanted.unhidden_fields_iff.mpr fun p hp =>
          ⟨fun _ => inherits_eq_false_iff.mp (hparts p hp).1, (hpart p hp).2⟩⟩
    · rintro ⟨hmet, hseen⟩
      obtain ⟨⟨held, rfl, hne⟩, hparts⟩ := Wanted.metBy_fields_iff.mp hmet
      refine ⟨held, rfl, hne, fun p hp => ?_⟩
      obtain ⟨hvalue, hrest⟩ := Wanted.unhidden_fields_iff.mp hseen p hp
      have hpart : p.2.MetBy (Fields.get? p.1 held) := hparts p hp
      refine ⟨?_, (meets_part_iff wanted p hp _).mpr ⟨hpart, hrest⟩⟩
      cases hw : p.2 with
      | value v => exact inherits_eq_false_iff.mpr (hvalue ⟨v, hw⟩)
      | fields inner => exact inherits_of_metBy_fields (hw ▸ hpart)

theorem meets_part_iff : ∀ (wanted : List (String × Wanted)), ∀ p ∈ wanted,
    ∀ actual : Option Json, meets p.2 actual = true ↔ p.2.MetBy actual ∧ p.2.Unhidden actual
  | (key, w) :: rest, p, hp, actual => by
    rcases List.mem_cons.mp hp with rfl | hrest
    · exact meets_iff w actual
    · exact meets_part_iff rest p hrest actual

end

/-! ## 3. Documents as filters -/

namespace Wanted

theorem ofFields_eq_map (fields : Fields) :
    ofFields fields = fields.map fun f => (f.1, ofJson f.2) := by
  induction fields with
  | nil => rfl
  | cons f rest ih => exact congrArg (_ :: ·) ih

theorem ofJson_eq_fields {v : Json} {wanted : List (String × Wanted)}
    (h : ofJson v = .fields wanted) : ∃ fields, v = .obj fields := by
  cases v with
  | obj fields => exact ⟨fields, rfl⟩
  | _ => simp [ofJson] at h

theorem ofJson_eq_value {v : Json} {leaf : Option Leaf} (h : ofJson v = .value leaf) :
    leaf.map Subtype.val = some v := by
  cases v with
  | obj fields => simp [ofJson] at h
  | _ =>
    simp only [ofJson, value.injEq] at h
    rw [← h]
    rfl

/-- The paths of a document as a filter lead to its parts, as filters. -/
theorem leads_ofJson_iff {v : Json} (hv : v.Proper) {path : List String} {w : Wanted} :
    (ofJson v).Leads path w ↔ ∃ part, Json.at? path (some v) = some part ∧ w = ofJson part := by
  induction path generalizing v with
  | nil =>
    rw [leads_nil_iff]
    constructor
    · rintro rfl
      exact ⟨v, rfl, rfl⟩
    · rintro ⟨part, hpart, rfl⟩
      exact congrArg ofJson (Option.some.inj hpart)
  | cons key path ih =>
    rw [leads_cons_iff]
    constructor
    · rintro ⟨wanted, inner, hwanted, hmem, hrest⟩
      obtain ⟨fields, rfl⟩ := ofJson_eq_fields hwanted
      rw [ofJson, ofFields_eq_map, Wanted.fields.injEq] at hwanted
      rw [← hwanted] at hmem
      obtain ⟨⟨_, u⟩, hu, heq⟩ := List.mem_map.mp hmem
      cases heq
      rw [Json.at?_cons_of_mem hv.1 hu]
      exact (ih (hv.2.of_mem hu)).mp hrest
    · rintro ⟨part, hpart, rfl⟩
      obtain ⟨fields, inner, rfl, hmem, hrest⟩ := Json.at?_cons_eq_some hpart
      refine ⟨_, ofJson inner, rfl, ?_, (ih (hv.2.of_mem hmem)).mpr ⟨part, hrest, rfl⟩⟩
      rw [ofFields_eq_map]
      exact List.mem_map_of_mem hmem

end Wanted

/-- Nothing that a document asks for is hidden in itself. -/
theorem unhidden_self {v : Json} (hv : v.Proper) : (Wanted.ofJson v).Unhidden (some v) := by
  intro path key leaf held hleads hheld
  obtain ⟨part, hpart, -⟩ := (Wanted.leads_ofJson_iff hv).mp hleads
  rw [Json.at?_append, hheld] at hpart
  exact .inl (List.mem_map_of_mem (Fields.mem_of_get?_eq_some hpart))

/-- A document is what it asks for itself, unless there is an empty record in it. -/
theorem meets_self_iff {v : Json} (hv : v.Proper) :
    meets (.ofJson v) (some v) = true ↔ ∀ path, Json.at? path (some v) ≠ some (.obj []) := by
  rw [meets_iff, and_iff_left (unhidden_self hv)]
  constructor
  · intro h path hempty
    have hleads := (Wanted.leads_ofJson_iff hv).mpr ⟨_, hempty, rfl⟩
    obtain ⟨held, hheld, hne⟩ := h.records path [] hleads
    rw [hempty] at hheld
    cases hheld
    exact hne rfl
  · intro hfull
    constructor
    · intro path wanted hleads
      obtain ⟨part, hpart, hwanted⟩ := (Wanted.leads_ofJson_iff hv).mp hleads
      obtain ⟨held, rfl⟩ := Wanted.ofJson_eq_fields hwanted.symm
      refine ⟨held, hpart, ?_⟩
      rintro rfl
      exact hfull path hpart
    · intro path leaf hleads
      obtain ⟨part, hpart, hleaf⟩ := (Wanted.leads_ofJson_iff hv).mp hleads
      rw [hpart, Wanted.ofJson_eq_value hleaf.symm]
      exact Json.same_self part (hv.at? hpart)

/-! ## 4. Filtering -/

/-- A filter asks field by field, and for nothing if it has no fields. -/
theorem accepts_iff {wanted : List (String × Wanted)} {e : Json} :
    accepts wanted e = true ↔ ∀ p ∈ wanted, ∃ held, e = .obj held ∧ held ≠ [] ∧
      inherits p.1 held = false ∧ meets p.2 (Fields.get? p.1 held) = true := by
  cases wanted with
  | nil => simp [accepts]
  | cons p rest =>
    have hmeets : accepts (p :: rest) e = meets (.fields (p :: rest)) (some e) := rfl
    rw [hmeets, meets_fields_iff]
    constructor
    · rintro ⟨held, heq, hne, hparts⟩ q hq
      exact ⟨held, Option.some.inj heq, hne, hparts q hq⟩
    · intro h
      obtain ⟨held, rfl, hne, -⟩ := h p List.mem_cons_self
      refine ⟨held, rfl, hne, fun q hq => ?_⟩
      obtain ⟨_, heq, -, hpart⟩ := h q hq
      cases heq
      exact hpart

/-- To ask for the fields of two filters is to ask for those of both. -/
theorem accepts_union {f g h : List (String × Wanted)}
    (hunion : ∀ entry, entry ∈ h ↔ entry ∈ f ∨ entry ∈ g) (e : Json) :
    accepts h e = (accepts f e && accepts g e) := by
  rw [Bool.eq_iff_iff, Bool.and_eq_true, accepts_iff, accepts_iff, accepts_iff]
  simp only [hunion, or_imp]
  exact forall_and

namespace Resolver

end Resolver

end Selection

end MagnumClient
