/-
MagnumClient.Proofs.Malformed — which records have no normal form, and what is said of them.

A record is refused for want of a required field, and for nothing else (`normalize_eq_error_iff`).
What is said then is the first field, in the order of the schema, that it lacks
(`Schema.FirstLacking`); a field that is null is there. Records are refused together: a list has
normal forms iff all its records do, and otherwise says what its first bad record says.

Such a failure is one of the library's own, but none of an operation, so putting an operation's
message in front of it changes nothing (`wrap_normalizeAll`). That is why listing the services
tells of a malformed record as the normal form of the record does.
-/
import Mathlib.Data.List.Forall2
import MagnumClient.Proofs.Equipment
import MagnumClient.Proofs.Lossless
import MagnumClient.Proofs.Paging

namespace MagnumClient

namespace Record

open Fields (has)

/-! ## 1. One record -/

/-- A required field is the first, in the order of the schema, that a record lacks. -/
def Schema.FirstLacking (s : Schema) (record : Fields) (f : Required) : Prop :=
  ∃ before after, s.required = before ++ f :: after ∧
    (∀ g ∈ before, has g.key record = true) ∧ has f.key record = false

theorem missing?_eq_some_iff {s : Schema} {record : Fields} {f : Required} :
    missing? s.required record = some f ↔ s.FirstLacking record f := by
  unfold missing? Schema.FirstLacking
  rw [List.find?_eq_some_iff_append]
  constructor
  · rintro ⟨hf, before, after, hsplit, hbefore⟩
    exact ⟨before, after, hsplit, by simpa using hbefore, by simpa using hf⟩
  · rintro ⟨before, after, hsplit, hbefore, hf⟩
    exact ⟨by simpa using hf, before, after, hsplit, by simpa using hbefore⟩

/-- A record lacks a first field iff it lacks any. -/
theorem exists_firstLacking_iff {s : Schema} {record : Fields} :
    (∃ f, s.FirstLacking record f) ↔ ∃ f ∈ s.required, has f.key record = false := by
  simp only [← missing?_eq_some_iff, ← Option.isSome_iff_exists]
  simp [missing?, List.find?_isSome]

/-- Under a sound schema, a record is refused for the first required field that it lacks. -/
theorem normalize_eq_error_iff {s : Schema} (h : s.Sound) {strict : Bool} {location record : Json}
    {e : Failure} :
    normalize s strict location record = .error e ↔
      ∃ f, s.FirstLacking record.ownFields f ∧ e = .malformed s.resource f.key := by
  rw [normalize_eq h]
  simp only [← missing?_eq_some_iff]
  cases missing? s.required record.ownFields with
  | none => simp
  | some f => simp [eq_comm]

/-! ## 2. Lists of records -/

variable {s : Schema} {strict : Bool} {location : Json} {records : List Json}

/-- A list has one normal form for each record, in the order of the records. -/
theorem normalizeAll_eq_ok_iff {forms : List Json} :
    normalizeAll s strict location records = .ok forms ↔
      List.Forall₂ (fun record form => normalize s strict location record = .ok form)
        records forms := by
  induction records generalizing forms with
  | nil => simp [normalizeAll, eq_comm]
  | cons record records ih =>
    rw [List.forall₂_cons_left_iff]
    simp only [← ih, normalizeAll]
    cases normalize s strict location record with
    | error e => simp
    | ok first =>
      cases normalizeAll s strict location records with
      | error e => simp
      | ok others => simp [eq_comm]

/-- A list is refused for its first record that is. -/
theorem normalizeAll_eq_error_iff {e : Failure} :
    normalizeAll s strict location records = .error e ↔
      ∃ before record after, records = before ++ record :: after ∧
        (∀ r ∈ before, ∃ form, normalize s strict location r = .ok form) ∧
        normalize s strict location record = .error e := by
  induction records with
  | nil => simp [normalizeAll]
  | cons first records ih =>
    cases hfirst : normalize s strict location first with
    | error e' =>
      have hall : normalizeAll s strict location (first :: records) = .error e' := by
        simp [normalizeAll, hfirst]
      rw [hall]
      constructor
      · intro he
        cases he
        exact ⟨[], first, records, rfl, by simp, hfirst⟩
      · -- no record stands before the first
        rintro ⟨_ | ⟨r, before⟩, record, after, hsplit, hbefore, hrecord⟩
        · obtain ⟨rfl, -⟩ := List.cons.inj hsplit
          cases hfirst.symm.trans hrecord
          rfl
        · obtain ⟨rfl, -⟩ := List.cons.inj hsplit
          obtain ⟨form, hform⟩ := hbefore first List.mem_cons_self
          rw [hfirst] at hform
          cases hform
    | ok form =>
      have hall : normalizeAll s strict location (first :: records) = .error e ↔
          normalizeAll s strict location records = .error e := by
        simp only [normalizeAll, hfirst]
        cases normalizeAll s strict location records <;> simp
      rw [hall, ih]
      constructor
      · rintro ⟨before, record, after, rfl, hbefore, hrecord⟩
        exact ⟨first :: before, record, after, rfl,
          List.forall_mem_cons.mpr ⟨⟨form, hfirst⟩, hbefore⟩, hrecord⟩
      · rintro ⟨_ | ⟨r, before⟩, record, after, hsplit, hbefore, hrecord⟩
        · obtain ⟨rfl, -⟩ := List.cons.inj hsplit
          rw [hfirst] at hrecord
          cases hrecord
        · obtain ⟨rfl, rfl⟩ := List.cons.inj hsplit
          exact ⟨before, record, after, rfl, (List.forall_mem_cons.mp hbefore).2, hrecord⟩

theorem exists_normalizeAll_iff :
    (∃ forms, normalizeAll s strict location records = .ok forms) ↔
      ∀ record ∈ records, ∃ form, normalize s strict location record = .ok form := by
  simp only [normalizeAll_eq_ok_iff]
  induction records with
  | nil => simp
  | cons record records ih =>
    rw [List.forall_mem_cons, ← ih]
    simp only [List.forall₂_cons_left_iff]
    constructor
    · rintro ⟨_, form, forms, hform, hforms, rfl⟩
      exact ⟨⟨form, hform⟩, forms, hforms⟩
    · rintro ⟨⟨form, hform⟩, forms, hforms⟩
      exact ⟨form :: forms, form, forms, hform, hforms, rfl⟩

/-! ## 3. The list of services -/

/-- That a record is malformed is told as it is, whatever operation has met it. -/
theorem wrap_normalizeAll {α : Type} (h : s.Sound) (message : String) (f : List Json → α) :
    Failure.wrap message ((normalizeAll s strict location records).map f) =
      (normalizeAll s strict location records).map f := by
  cases hall : normalizeAll s strict location records with
  | ok forms => rfl
  | error e =>
    obtain ⟨_, record, _, -, -, hrecord⟩ := normalizeAll_eq_error_iff.mp hall
    obtain ⟨f, -, rfl⟩ := (normalize_eq_error_iff h).mp hrecord
    rfl

end Record

open Record (normalize normalizeAll)

/-- What the list of services comes to, when the service has answered with records, is what their
normal forms come to. -/
theorem Session.perform_services {s : Session} {base : String}
    (hbase : s.state.baseOf containerInfra = .ok base) {replies : List Prepared}
    {response : Response}
    (hreply : (takeReply .get replies).map (·.1) = some (.answer response))
    (hstatus : ¬ response.status ≥ refusalStatus) {records : List Json}
    (hrecords : (decoded false response.data).bind (Json.field? "mservices") =
      some (.arr records)) :
    ((s.fresh replies).perform (.cloud .services)).1 =
      (normalizeAll Record.service false s.place records).map fun forms => some (.arr forms) := by
  let ask := ContainerInfra.ask .get "/mservices" "magnumServices" none
  have hbase' : (s.fresh replies).state.baseOf ask.sender.service = .ok base :=
    (baseOf_fresh replies s _).trans hbase
  have hask : ask.base = none := rfl
  obtain ⟨request, -, hexchange, -⟩ := Cloud.State.exchange_sent hask hbase'
  have hnext : (s.fresh replies).state.nextReply .get = .answer response := by
    show ((takeReply .get replies).map (·.1)).getD .missing = _
    rw [hreply]
    rfl
  have houtcome : outcome ask request (.answer response) = .ok (decoded false response.data) := by
    rw [outcome, if_neg hstatus]
    rfl
  have hanswer : ((s.fresh replies).state.exchange ask).1 = .ok (decoded false response.data) := by
    rw [hexchange]
    show (outcome ask request ((s.fresh replies).state.nextReply .get)).mapError _ = _
    rw [hnext, houtcome]
    rfl
  have hlisted : Cloud.serviceRecords (decoded false response.data) = .ok records := by
    rw [Cloud.serviceRecords, hrecords]
  show (Cloud.run (Cloud.services s.place) (s.fresh replies).state).1 = _
  simp only [Cloud.services, ContainerInfra.services, Cloud.run]
  rw [hanswer]
  simp only [hlisted]
  exact Record.wrap_normalizeAll Record.service_sound _ _

/-! ## 4. All kinds -/

namespace Record

end Record

end MagnumClient
