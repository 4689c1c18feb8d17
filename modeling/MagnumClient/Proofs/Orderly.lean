/-
MagnumClient.Proofs.Orderly — what the operations ask for, and how they take failures.

The operations on a cloud and those of the service are built alike. Apart from the pages of
collections they ask for the places of the service (`Place`), and without choices of the
caller's (`Ask.Plain`). A failed request is the end of them, and they tell what is known of
it, be it under a message of their own (`Call.Relaying`).

`Call.Orderly` says both of a whole tree, by recursion, so what follows for requests is
proved by induction over trees and not for one operation after the other.
-/
import MagnumClient.Session

namespace MagnumClient

/-! ## 1. Places -/

/-- The places of the service, by the methods that they are asked with. -/
inductive Place : Method → String → Prop where
  | list (kind : Kind) : Place .get kind.place
  | create (kind : Kind) : Place .post kind.place
  | update (kind : Kind) (id : String) : Place .patch (kind.placeOf id)
  | delete (kind : Kind) (id : String) : Place .delete (kind.placeOf id)
  | certificate (clusterId : String) : Place .get ("/certificates/" ++ clusterId)
  | sign : Place .post "/certificates"
  | services : Place .get "/mservices"

/-- An ask for a place of the service, with no choices of the caller's. -/
structure Ask.Plain (ask : Ask) : Prop where
  base : ask.base = none
  service : ask.sender.service = containerInfra
  choices : ask.choices = .usual
  place : ∃ place, ask.place = .segment place ∧ Place ask.method place

/-! ## 2. Failures on their way -/

namespace Failure

/-- An operation's own message in front of a failure leaves what is known of the request. -/
theorem facts?_under {f : Failure} {facts : HttpFacts} (message : String)
    (h : f.facts? = some facts) : (f.under message).facts? = some facts := by
  cases f with
  | http m known extra cause => exact h
  | _ => cases h

end Failure

namespace Call

/-- A failed request is the end of the call, which tells what is known of the request. -/
def Relaying {α : Type} (next : Except Failure α → Call) : Prop :=
  ∀ f facts, f.facts? = some facts → ∃ g, next (.error f) = .fail g ∧ g.facts? = some facts

/-- To go on with a value only is to fail as before. -/
theorem relaying_andThen {α : Type} (next : α → Call) : Relaying (andThen next) :=
  fun f _ h => ⟨f, rfl, h⟩

theorem relaying_done : Relaying Call.done :=
  fun f _ h => ⟨f, rfl, h⟩

/-- To fail under a message of one's own is to fail as before, too. -/
theorem relaying_wrap (message : String) :
    Relaying fun o : Outcome => .done (Failure.wrap message o) :=
  fun f _ h => ⟨f.under message, rfl, Failure.facts?_under message h⟩

/-! ## 3. Orderly calls -/

/-- Apart from the pages of collections a call asks for places of the service, and whatever
request fails, that is the end of it. -/
def Orderly : Call → Prop
  | .done _ => True
  | .exchange ask next => ask.Plain ∧ Relaying next ∧ ∀ o, (next o).Orderly
  | .collect _ next => Relaying next ∧ ∀ o, (next o).Orderly
  | .listing _ next => Relaying next ∧ ∀ o, (next o).Orderly
  | .forget _ next => next.Orderly
  | .note _ next => next.Orderly

theorem orderly_andThen {α : Type} {next : α → Call} (h : ∀ a, (next a).Orderly)
    (o : Except Failure α) : (andThen next o).Orderly := by
  cases o with
  | ok a => exact h a
  | error f => exact trivial

end Call

namespace ContainerInfra

open Call

theorem plain_ask {m : Method} {place : String} (h : Place m place) (operation : String)
    (body : Option Json) : (ask m place operation body).Plain :=
  ⟨rfl, rfl, rfl, place, rfl, h⟩

/-- The asks for pages make no choices, either. -/
theorem choices_pageAsk (kind : Kind) (link : Option Path.Part) :
    (pageAsk kind link).choices = .usual := by
  cases link <;> rfl

theorem service_pageAsk (kind : Kind) (link : Option Path.Part) :
    (pageAsk kind link).sender.service = containerInfra := by
  cases link <;> rfl

theorem orderly_create (kind : Kind) (attributes : Json) {next : Outcome → Call}
    (hnext : Relaying next) (h : ∀ o, (next o).Orderly) :
    (create kind attributes next).Orderly := by
  refine ⟨plain_ask (.create kind) .., fun f facts hf => ?_, fun o => ?_⟩
  · cases kind <;> exact hnext f facts hf
  · cases kind <;> exact h _

theorem orderly_update (kind : Kind) (entity : Json) (fields : Fields) :
    (update kind entity fields).Orderly := by
  unfold update
  cases Update.address entity with
  | error f => exact trivial
  | ok id =>
    exact ⟨plain_ask (.update kind id) .., fun f facts hf => ⟨f, rfl, hf⟩, fun o => trivial⟩

theorem orderly_delete (kind : Kind) (entity : Json) {next : Except Failure Unit → Call}
    (hnext : Relaying next) (h : ∀ o, (next o).Orderly) : (delete kind entity next).Orderly := by
  unfold delete
  cases Update.address entity with
  | error f => exact h _
  | ok id =>
    exact ⟨plain_ask (.delete kind id) .., fun f facts hf => hnext f facts hf, fun o => h _⟩

theorem orderly_certificate (clusterId : String) {next : Outcome → Call} (hnext : Relaying next)
    (h : ∀ o, (next o).Orderly) : (certificate clusterId next).Orderly :=
  ⟨plain_ask (.certificate clusterId) .., hnext, h⟩

theorem orderly_sign (clusterId csr : String) {next : Outcome → Call} (hnext : Relaying next)
    (h : ∀ o, (next o).Orderly) : (sign clusterId csr next).Orderly :=
  ⟨plain_ask .sign .., hnext, h⟩

theorem orderly_services {next : Outcome → Call} (hnext : Relaying next)
    (h : ∀ o, (next o).Orderly) : (services next).Orderly :=
  ⟨plain_ask .services .., hnext, h⟩

/-- The operations of the service are orderly. -/
theorem orderly_operation (op : Operation) : op.call.Orderly := by
  cases op with
  | list kind => exact ⟨relaying_andThen _, orderly_andThen fun items => trivial⟩
  | create kind attributes => exact orderly_create kind attributes relaying_done fun o => trivial
  | update kind entity fields => exact orderly_update kind entity fields
  | delete kind entity =>
    have h : (delete kind entity fun o => .done (o.map fun _ => none)).Orderly :=
      orderly_delete kind entity (fun f facts hf => ⟨f, rfl, hf⟩) fun o => trivial
    exact h
  | certificate clusterId => exact orderly_certificate clusterId relaying_done fun o => trivial
  | sign clusterId csr => exact orderly_sign clusterId csr relaying_done fun o => trivial
  | services => exact orderly_services relaying_done fun o => trivial

end ContainerInfra

namespace Cloud

open Call

/-- If a resource cannot be looked up because a request failed, that ends the call. -/
theorem orderly_locate (kind : Kind) (target : Target) (filter : Selection.Filter)
    {next : Except Failure Json → Call} (hnext : Relaying next) (h : ∀ o, (next o).Orderly) :
    (locate kind target filter next).Orderly := by
  cases target with
  | entity v => exact h _
  | name text => exact ⟨hnext, fun o => h _⟩

theorem orderly_search (kind : Kind) (name : Option String) (filter : Selection.Filter) :
    (search kind name filter).Orderly := by
  refine ⟨relaying_andThen _, orderly_andThen fun items => orderly_andThen (fun found => ?_) _⟩
  exact trivial

theorem orderly_create (kind : Kind) (attributes : Fields) : (create kind attributes).Orderly := by
  refine ContainerInfra.orderly_create kind _ (fun f facts hf => ⟨f, rfl, hf⟩) fun o => ?_
  cases o <;> exact trivial

theorem orderly_delete (kind : Kind) (target : Target) : (delete kind target).Orderly := by
  refine orderly_locate kind target .all (relaying_andThen _) (orderly_andThen fun entity => ?_)
  split
  · refine ContainerInfra.orderly_delete kind entity (relaying_andThen _)
      (orderly_andThen fun _ => ?_)
    exact trivial
  · exact trivial

theorem orderly_update (kind : Kind) (target : Target) (fields : Fields) :
    (update kind target fields).Orderly := by
  refine orderly_locate kind target .all (relaying_andThen _) (orderly_andThen fun entity => ?_)
  split
  · exact ContainerInfra.orderly_update kind entity fields
  · exact trivial

/-- The operations on a cloud are orderly. -/
theorem orderly_operation (location : Json) (op : Operation) : (op.call location).Orderly := by
  cases op with
  | list kind => exact ⟨relaying_andThen _, orderly_andThen fun items => trivial⟩
  | search kind name filter => exact orderly_search kind name filter
  | get kind target filter =>
    exact orderly_locate kind target filter (relaying_andThen _) (orderly_andThen fun v => trivial)
  | createCluster name templateId extra => exact orderly_create ..
  | createTemplate name options => exact orderly_create ..
  | delete kind target => exact orderly_delete kind target
  | update kind target fields => exact orderly_update kind target fields
  | certificate clusterId =>
    exact ContainerInfra.orderly_certificate clusterId (relaying_wrap _) fun o => trivial
  | sign clusterId csr =>
    exact ContainerInfra.orderly_sign clusterId csr (relaying_wrap _) fun o => trivial
  | services =>
    -- the answer is read before the message is put in front, but a failure has none
    refine ContainerInfra.orderly_services ?_ fun o => ?_
    · exact fun f facts hf => ⟨f.under _, rfl, Failure.facts?_under _ hf⟩
    · exact trivial

theorem orderly_normalized (strict : Bool) (location : Json) :
    (normalized strict location).Orderly := by
  refine ⟨relaying_andThen _, orderly_andThen fun items => orderly_andThen (fun rs => ?_) _⟩
  exact trivial

end Cloud

end MagnumClient
