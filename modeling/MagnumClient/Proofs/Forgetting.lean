/-
MagnumClient.Proofs.Forgetting — which calls forget a listing, and when.

A call is a tree, and what is said of calls here is said of trees, by recursion:

* `Call.ForgetsWhen kind loud` — the call forgets the listing of a kind only when
  nothing is left to wait for, and it has done so at its end exactly when it came
  to one of the outcomes `loud`.
* `Call.Without kind` — the call never asks for the cached listing of a kind.
* `Call.AsksFirst kind` — the call asks for it at its very beginning or never.

`Operation.changed` are the outcomes by which an operation says that it has
created or deleted something. Every operation but the update of the kind forgets
exactly then (`forgetsWhen_call`): this is what "forgets after the answer" comes
to. An update forgets at its beginning and not again.
-/
import MagnumClient.Cloud.Facade

namespace MagnumClient

namespace Call

/-! ## 1. Trees -/

/-- A call forgets the listing of a kind only when nothing is left to wait for,
and exactly for the outcomes `loud`. The flag says whether it has forgotten it
since it waited last. -/
def ForgetsWhen (kind : Kind) (loud : Outcome → Bool) : Bool → Call → Prop
  | armed, .done o => loud o = armed
  | armed, .exchange _ next => armed = false ∧ ∀ o, (next o).ForgetsWhen kind loud false
  | armed, .collect _ next => armed = false ∧ ∀ o, (next o).ForgetsWhen kind loud false
  | armed, .listing _ next => armed = false ∧ ∀ o, (next o).ForgetsWhen kind loud false
  | armed, .forget other next => next.ForgetsWhen kind loud (armed || other == kind)
  | armed, .note _ next => next.ForgetsWhen kind loud armed

/-- A call does not ask for the cached listing of a kind. -/
def Without (kind : Kind) : Call → Prop
  | .done _ => True
  | .exchange _ next => ∀ o, (next o).Without kind
  | .collect _ next => ∀ o, (next o).Without kind
  | .listing other next => other ≠ kind ∧ ∀ o, (next o).Without kind
  | .forget _ next => next.Without kind
  | .note _ next => next.Without kind

/-- A call asks for the cached listing of a kind at its very beginning and not
again, or, without the flag, not at all. -/
def AsksFirst (kind : Kind) : Bool → Call → Prop
  | true, c => ∃ next, c = .listing kind next ∧ ∀ o, (next o).Without kind
  | false, c => c.Without kind

section

variable {α : Type} {kind : Kind} {loud : Outcome → Bool} {armed : Bool} {next : α → Call}

theorem forgetsWhen_andThen (hnext : ∀ a, (next a).ForgetsWhen kind loud armed)
    (hfail : ∀ f, loud (.error f) = armed) (o : Except Failure α) :
    (andThen next o).ForgetsWhen kind loud armed := by
  cases o with
  | ok a => exact hnext a
  | error f => exact hfail f

theorem without_andThen (hnext : ∀ a, (next a).Without kind) (o : Except Failure α) :
    (andThen next o).Without kind := by
  cases o with
  | ok a => exact hnext a
  | error f => exact trivial

theorem asksFirst_listing {other : Kind} {next : Except Failure (List Json) → Call}
    (h : ∀ o, (next o).Without kind) : (listing other next).AsksFirst kind (other == kind) := by
  by_cases hk : other = kind
  · subst hk
    rw [show (other == other) = true by simp]
    exact ⟨next, rfl, h⟩
  · rw [show (other == kind) = false by simp [hk]]
    exact ⟨hk, h⟩

end

end Call

namespace Cloud

/-! ## 2. Operations -/

/-- Whether an operation says, by what it came to, that it has created or deleted
a resource of a kind. -/
def Operation.changed (kind : Kind) : Operation → Outcome → Bool
  | .createCluster .., .ok _ => kind == .cluster
  | .createTemplate .., .ok _ => kind == .template
  | .delete other _, .ok (some (.bool true)) => other == kind
  | _, _ => false

/-- What an update does once it has forgotten the cached listing. -/
def revise (kind : Kind) (target : Target) (fields : Fields) : Call :=
  locate kind target .all <| Call.andThen fun entity =>
    if entity.isTruthy then ContainerInfra.update kind entity fields
    else .fail (kind.notFound target.text)

theorem update_eq (kind : Kind) (target : Target) (fields : Fields) :
    update kind target fields = .forget kind (revise kind target fields) := rfl

section

variable {kind other : Kind} {loud : Outcome → Bool} {next : Except Failure Json → Call}

theorem forgetsWhen_locate (target : Target) (filter : Selection.Filter)
    (h : ∀ o, (next o).ForgetsWhen kind loud false) :
    (locate other target filter next).ForgetsWhen kind loud false := by
  cases target with
  | name t => exact ⟨rfl, fun o => h _⟩
  | entity v => exact h _

theorem forgetsWhen_create (attributes : Fields) (hfail : ∀ f, loud (.error f) = false)
    (hok : ∀ v, loud (.ok v) = (other == kind)) :
    (create other attributes).ForgetsWhen kind loud false := by
  have forgets : ∀ v, Call.ForgetsWhen kind loud false (.forget other (.done (.ok v))) := by
    intro v
    simpa [Call.ForgetsWhen] using hok v
  refine ⟨rfl, fun o => ?_⟩
  cases other <;> cases o with
  | error f => exact hfail f
  | ok v => exact forgets _

theorem forgetsWhen_delete (target : Target) (hfail : ∀ f, loud (.error f) = false)
    (htrue : loud (.ok (some (.bool true))) = (other == kind))
    (hfalse : loud (.ok (some (.bool false))) = false) :
    (delete other target).ForgetsWhen kind loud false := by
  refine forgetsWhen_locate target .all (Call.forgetsWhen_andThen (fun e => ?_) hfail)
  split
  · unfold ContainerInfra.delete
    cases Update.address e with
    | error f => exact hfail f
    | ok id =>
      refine ⟨rfl, fun o => Call.forgetsWhen_andThen (fun _ => ?_) hfail _⟩
      simpa [Call.value, Call.ForgetsWhen] using htrue
  · exact hfalse

/-- An update forgets at its beginning, and not again. -/
theorem forgetsWhen_revise (target : Target) (fields : Fields) (hquiet : ∀ o, loud o = false) :
    (revise other target fields).ForgetsWhen kind loud false := by
  refine forgetsWhen_locate target .all (Call.forgetsWhen_andThen (fun e => ?_) fun f => hquiet _)
  split
  · unfold ContainerInfra.update
    cases Update.address e with
    | error f => exact hquiet _
    | ok id => exact ⟨rfl, fun o => hquiet _⟩
  · exact hquiet _

theorem forgetsWhen_update {target : Target} {fields : Fields} (hne : other ≠ kind)
    (hquiet : ∀ o, loud o = false) : (update other target fields).ForgetsWhen kind loud false := by
  have hk : (other == kind) = false := by simpa using hne
  rw [update_eq, Call.ForgetsWhen, hk]
  exact forgetsWhen_revise target fields hquiet

end

/-- Whether a target is given by name. -/
def Target.isName : Target → Bool
  | .name _ => true
  | .entity _ => false

theorem asksFirst_locate {kind other : Kind} {next : Except Failure Json → Call} (target : Target)
    (filter : Selection.Filter) (h : ∀ o, (next o).Without kind) :
    (locate other target filter next).AsksFirst kind (target.isName && other == kind) := by
  cases target with
  | name t => exact Call.asksFirst_listing fun o => h _
  | entity v => exact h _

theorem asksFirst_delete {kind other : Kind} (target : Target) :
    (delete other target).AsksFirst kind (target.isName && other == kind) := by
  refine asksFirst_locate target .all (Call.without_andThen fun e => ?_)
  split
  · unfold ContainerInfra.delete
    cases Update.address e with
    | error f => exact trivial
    | ok id =>
      refine fun o => Call.without_andThen (fun _ => ?_) _
      exact trivial
  · exact trivial

theorem asksFirst_revise (kind other : Kind) (target : Target) (fields : Fields) :
    (revise other target fields).AsksFirst kind (target.isName && other == kind) := by
  refine asksFirst_locate target .all (Call.without_andThen fun e => ?_)
  split
  · unfold ContainerInfra.update
    cases Update.address e with
    | error f => exact trivial
    | ok id => exact fun o => trivial
  · exact trivial

/-- Before the look-up nothing is asked for, only forgotten. -/
theorem asksFirst_update {kind other : Kind} {target : Target} {fields : Fields}
    (hne : other ≠ kind) :
    (update other target fields).AsksFirst kind (target.isName && other == kind) := by
  have hk : (target.isName && other == kind) = false := by simp [hne]
  have hrest := asksFirst_revise kind other target fields
  rw [hk] at hrest ⊢
  exact hrest

/-- All operations but the update of the kind forget its listing at their end, and
exactly when they have created or deleted something. -/
theorem forgetsWhen_call (place : Json) (kind : Kind) (op : Operation)
    (hop : ∀ target fields, op ≠ .update kind target fields) :
    (op.call place).ForgetsWhen kind (op.changed kind) false := by
  cases op with
  | list other =>
    refine ⟨rfl, Call.forgetsWhen_andThen (fun items => ?_) fun _ => rfl⟩
    exact rfl
  | search other name filter =>
    refine ⟨rfl, Call.forgetsWhen_andThen (fun items => ?_) fun _ => rfl⟩
    refine Call.forgetsWhen_andThen (fun found => ?_) (fun _ => rfl) _
    exact rfl
  | get other target filter =>
    refine forgetsWhen_locate target filter (Call.forgetsWhen_andThen (fun e => ?_) fun _ => rfl)
    exact rfl
  | createCluster name templateId extra =>
    exact forgetsWhen_create _ (fun _ => rfl) fun _ => by cases kind <;> rfl
  | createTemplate name options =>
    exact forgetsWhen_create _ (fun _ => rfl) fun _ => by cases kind <;> rfl
  | delete other target => exact forgetsWhen_delete target (fun _ => rfl) rfl rfl
  | update other target fields =>
    exact forgetsWhen_update (fun h => hop target fields (by rw [h])) fun _ => rfl
  | certificate clusterId => exact ⟨rfl, fun _ => rfl⟩
  | sign clusterId csr => exact ⟨rfl, fun _ => rfl⟩
  | services => exact ⟨rfl, fun _ => rfl⟩

/-- Whether an operation asks for the cached listing of a kind. -/
def Operation.asks (kind : Kind) : Operation → Bool
  | .list other => other == kind
  | .search other _ _ => other == kind
  | .get other target _ => target.isName && other == kind
  | .delete other target => target.isName && other == kind
  | .update other target _ => target.isName && other == kind
  | _ => false

theorem asksFirst_call (place : Json) (kind : Kind) (op : Operation)
    (hop : ∀ target fields, op ≠ .update kind target fields) :
    (op.call place).AsksFirst kind (op.asks kind) := by
  cases op with
  | list other => exact Call.asksFirst_listing (Call.without_andThen fun _ => trivial)
  | search other name filter =>
    refine Call.asksFirst_listing (Call.without_andThen fun items =>
      Call.without_andThen (fun found => ?_) _)
    exact trivial
  | get other target filter =>
    refine asksFirst_locate target filter (Call.without_andThen fun e => ?_)
    exact trivial
  | createCluster name templateId extra =>
    intro o
    cases o <;> exact trivial
  | createTemplate name options =>
    intro o
    cases o <;> exact trivial
  | delete other target => exact asksFirst_delete target
  | update other target fields => exact asksFirst_update fun h => hop target fields (by rw [h])
  | certificate clusterId => exact fun _ => trivial
  | sign clusterId csr => exact fun _ => trivial
  | services => exact fun _ => trivial

end Cloud

end MagnumClient
