/-
MagnumClient.Proofs.Asks — which requests the operations on a cloud make.

An operation that needs a listing asks for it first, and then goes on with what it
was given (`Session.perform_of_asks`). Whatever else it asks for is its own
(`Ask.Own`): something at a place of the endpoint, and not the beginning of a
collection. `Call.Own` says so of a whole tree, by recursion.

So what a call sends is a reading of a collection, if it needs one that is not
cached, and behind that its own requests: `State.run_own` is the second half.
-/
import MagnumClient.Proofs.ReadAfterUpdate

namespace MagnumClient

/-! ## 1. Own requests -/

/-- An ask of an operation's own: for a place at the endpoint, and, if something is
to be read there, for a certificate or the services. -/
structure Ask.Own (ask : Ask) : Prop where
  base : ask.base = none
  service : ask.sender.service = containerInfra
  place : ∃ path, ask.place = .segment ("/" ++ path)
  reads : ask.method = .get →
    (∃ id, ask.place = .segment ("/certificates/" ++ id)) ∨ ask.place = .segment "/mservices"

namespace Call

/-- A call makes no requests but its own. -/
def Own : Call → Prop
  | .done _ => True
  | .exchange ask next => ask.Own ∧ ∀ o, (next o).Own
  | .collect _ _ => False
  | .listing _ _ => False
  | .forget _ next => next.Own
  | .note _ next => next.Own

theorem own_andThen {α : Type} {next : α → Call} (h : ∀ a, (next a).Own) (o : Except Failure α) :
    (andThen next o).Own := by
  cases o with
  | ok a => exact h a
  | error f => exact trivial

end Call

namespace ContainerInfra

theorem place_eq (kind : Kind) : kind.place = "/" ++ kind.collection := rfl

theorem placeOf_eq (kind : Kind) (id : String) :
    kind.placeOf id = "/" ++ (kind.collection ++ "/" ++ id) := by
  simp only [Kind.placeOf, place_eq, String.append_assoc]

/-- An ask that does not read anything is an operation's own. -/
theorem own_ask {m : Method} {path operation : String} {body : Option Json} (hm : m ≠ .get) :
    (ask m ("/" ++ path) operation body).Own where
  base := rfl
  service := rfl
  place := ⟨path, rfl⟩
  reads h := absurd h hm

theorem own_create (kind : Kind) (attributes : Json) {next : Outcome → Call}
    (h : ∀ o, (next o).Own) : (create kind attributes next).Own := by
  refine ⟨own_ask (by decide), fun o => ?_⟩
  cases kind <;> exact h _

theorem own_update (kind : Kind) (entity : Json) (fields : Fields) :
    (update kind entity fields).Own := by
  unfold update
  cases Update.address entity with
  | error f => exact trivial
  | ok id => exact ⟨by rw [placeOf_eq]; exact own_ask (by decide), fun o => trivial⟩

theorem own_delete (kind : Kind) (entity : Json) {next : Except Failure Unit → Call}
    (h : ∀ o, (next o).Own) : (delete kind entity next).Own := by
  unfold delete
  cases Update.address entity with
  | error f => exact h _
  | ok id => exact ⟨by rw [placeOf_eq]; exact own_ask (by decide), fun o => h _⟩

theorem own_certificate (clusterId : String) {next : Outcome → Call} (h : ∀ o, (next o).Own) :
    (certificate clusterId next).Own := by
  have hplace : "/certificates/" ++ clusterId = "/" ++ ("certificates/" ++ clusterId) := by
    rw [← String.append_assoc]
    rfl
  exact ⟨⟨rfl, rfl, ⟨_, congrArg _ hplace⟩, fun _ => .inl ⟨clusterId, rfl⟩⟩, h⟩

theorem own_sign (clusterId csr : String) {next : Outcome → Call} (h : ∀ o, (next o).Own) :
    (sign clusterId csr next).Own :=
  ⟨⟨rfl, rfl, ⟨"certificates", rfl⟩, fun hget => by cases hget⟩, h⟩

theorem own_services {next : Outcome → Call} (h : ∀ o, (next o).Own) : (services next).Own :=
  ⟨⟨rfl, rfl, ⟨"mservices", rfl⟩, fun _ => .inr rfl⟩, h⟩

end ContainerInfra

namespace Cloud

/-! ## 2. Operations -/

/-- What deleting does with the resource that was found. -/
theorem own_after_delete (kind : Kind) (text : String) (found : Except Failure Json) :
    (Change.delete.after kind text found).Own := by
  refine Call.own_andThen (fun entity => ?_) found
  split
  · refine ContainerInfra.own_delete kind entity (Call.own_andThen fun _ => ?_)
    exact trivial
  · exact trivial

theorem own_after_update (kind : Kind) (text : String) (fields : Fields)
    (found : Except Failure Json) : ((Change.update fields).after kind text found).Own := by
  refine Call.own_andThen (fun entity => ?_) found
  split
  · exact ContainerInfra.own_update kind entity fields
  · exact trivial

theorem own_create (kind : Kind) (attributes : Fields) : (create kind attributes).Own := by
  refine ContainerInfra.own_create kind _ fun o => ?_
  cases o <;> exact trivial

end Cloud

open Cloud (State)

/-- A command for the cloud, rather than for its client or past its caches. -/
def Command.forCloud : Command → Bool
  | .cloud _ => true
  | .normalizedClusters => true
  | .normalize _ _ => true
  | .strictMode => true
  | .location => true
  | _ => false

namespace Session

/-- A command that asks for a listing goes on with what it is given, makes no
requests but its own from then on, and fails if there is no listing. -/
theorem perform_of_asks {kind : Kind} {c : Command} (s : Session) (h : c.asks kind = true) :
    ∃ next : Except Failure (List Json) → Call,
      (∀ o, (next o).Own) ∧ (∀ f, next (.error f) = .fail f) ∧
      s.perform c =
        ((Cloud.run (next ((c.ready kind s.state).listing kind).1) (c.asked kind s.state)).1,
          { s with
            state := (Cloud.run (next ((c.ready kind s.state).listing kind).1)
              (c.asked kind s.state)).2 }) := by
  rw [Command.asked_of_asks h]
  cases c with
  | cloud op =>
    cases op with
    | list other =>
      obtain rfl : other = kind := by simpa [Command.asks, Cloud.Operation.asks] using h
      refine ⟨_, Call.own_andThen fun items => ?_, fun f => rfl, rfl⟩
      exact trivial
    | search other name filter =>
      obtain rfl : other = kind := by simpa [Command.asks, Cloud.Operation.asks] using h
      refine ⟨_, Call.own_andThen fun items => Call.own_andThen (fun found => ?_) _,
        fun f => rfl, rfl⟩
      exact trivial
    | get other target filter =>
      cases target with
      | entity v => cases h
      | name text =>
        obtain rfl : other = kind := by
          simpa [Command.asks, Cloud.Operation.asks, Cloud.Target.isName] using h
        refine ⟨fun o => Call.andThen .value (Cloud.lookUp other text filter o),
          fun o => Call.own_andThen (fun e => ?_) _, fun f => rfl, rfl⟩
        exact trivial
    | delete other target =>
      cases target with
      | entity v => cases h
      | name text =>
        obtain rfl : other = kind := by
          simpa [Command.asks, Cloud.Operation.asks, Cloud.Target.isName] using h
        exact ⟨fun o => Cloud.Change.delete.after other text (Cloud.lookUp other text .all o),
          fun o => Cloud.own_after_delete other text _, fun f => rfl, rfl⟩
    | update other target fields =>
      cases target with
      | entity v => cases h
      | name text =>
        obtain rfl : other = kind := by
          simpa [Command.asks, Cloud.Operation.asks, Cloud.Target.isName] using h
        refine ⟨fun o =>
          (Cloud.Change.update fields).after other text (Cloud.lookUp other text .all o),
          fun o => Cloud.own_after_update other text fields _, fun f => rfl, ?_⟩
        rw [Command.ready, if_pos (by simp [Command.updates])]
        rfl
    | _ => cases h
  | normalizedClusters =>
    obtain rfl : kind = .cluster := by simpa [Command.asks] using h
    refine ⟨_, Call.own_andThen fun items => Call.own_andThen (fun rs => ?_) _,
      fun f => rfl, rfl⟩
    exact trivial
  | _ => cases h

/-- A command for the cloud that asks for no listing makes its own requests only. -/
theorem own_of_not_asks {c : Command} {s : Session} {call : Call} (hcall : s.call? c = some call)
    (hcloud : c.forCloud = true) (h : ∀ kind, c.asks kind = false) : call.Own := by
  cases c with
  | cloud op =>
    obtain rfl := Option.some.inj hcall
    cases op with
    | list kind => simpa [Command.asks, Cloud.Operation.asks] using h kind
    | search kind name filter => simpa [Command.asks, Cloud.Operation.asks] using h kind
    | get kind target filter =>
      cases target with
      | name text =>
        simpa [Command.asks, Cloud.Operation.asks, Cloud.Target.isName] using h kind
      | entity v => exact trivial
    | createCluster name templateId extra => exact Cloud.own_create ..
    | createTemplate name options => exact Cloud.own_create ..
    | delete kind target =>
      cases target with
      | name text =>
        simpa [Command.asks, Cloud.Operation.asks, Cloud.Target.isName] using h kind
      | entity v => exact Cloud.own_after_delete kind v.plainText (.ok v)
    | update kind target fields =>
      cases target with
      | name text =>
        simpa [Command.asks, Cloud.Operation.asks, Cloud.Target.isName] using h kind
      | entity v => exact Cloud.own_after_update kind v.plainText fields (.ok v)
    | certificate clusterId => exact ContainerInfra.own_certificate clusterId fun o => trivial
    | sign clusterId csr => exact ContainerInfra.own_sign clusterId csr fun o => trivial
    | services => exact ContainerInfra.own_services fun o => trivial
  | normalizedClusters => simpa [Command.asks] using h .cluster
  | normalize kind records => cases hcall
  | strictMode => cases hcall
  | location => cases hcall
  | _ => cases hcloud

end Session

namespace Cloud.State

/-! ## 3. What is sent -/

/-- A request of an operation's own, to the service at an endpoint. -/
def OwnRequest (base : String) (request : Request) : Prop :=
  ∃ ask : Ask, ask.Own ∧ Answers ask (.segment base) request

/-- Such a call sends its own requests only. -/
theorem run_own {c : Call} (h : c.Own) {s : State} {base : String}
    (hbase : s.baseOf containerInfra = .ok base) :
    ∃ own, (run c s).2.sent = s.sent ++ own ∧ ∀ r ∈ own, OwnRequest base r := by
  induction c generalizing s with
  | done o => exact ⟨[], (List.append_nil _).symm, by simp⟩
  | exchange ask next ih =>
    obtain ⟨hask, hnext⟩ := h
    obtain ⟨request, hans, -, hframe⟩ := exchange_sent hask.base (hask.service ▸ hbase)
    obtain ⟨own, hown, hall⟩ := ih _ (hnext _) ((hframe.baseOf _).trans hbase)
    refine ⟨request :: own, ?_, ?_⟩
    · rw [run, hown, hframe.sent, List.append_assoc]
      rfl
    · intro r hr
      rcases List.mem_cons.mp hr with rfl | hr
      · exact ⟨ask, hask, hans⟩
      · exact hall r hr
  | collect kind next ih => exact h.elim
  | listing kind next ih => exact h.elim
  | forget kind next ih =>
    have hface : (s.modifyMemo kind .invalidate).client.face = s.client.face := by
      rw [client_modifyMemo]
    obtain ⟨own, hown, hall⟩ := ih h ((baseOf_congr hface _).trans hbase)
    exact ⟨own, by rw [run, hown, sent_modifyMemo], hall⟩
  | note message next ih =>
    obtain ⟨own, hown, hall⟩ := ih h (((frame_note message s).baseOf _).trans hbase)
    exact ⟨own, by rw [run, hown]; rfl, hall⟩

end Cloud.State

end MagnumClient
