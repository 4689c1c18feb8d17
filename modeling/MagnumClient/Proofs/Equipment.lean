/-
MagnumClient.Proofs.Equipment — the services that the client of a session knows.

Operations leave what requests can see of the client as it is (`Cloud.face_run`), and
commands only add services to it. So the built-in service is there from the first command to
the last, and the cloud of a session has an endpoint for its requests however the session has
been used (`Session.exists_base_play`).
-/
import MagnumClient.Proofs.Listing
import MagnumClient.Session

namespace MagnumClient

namespace Cloud

/-! ## 1. Operations -/

/-- Calls do not change what requests can see of the client. -/
theorem face_run (c : Call) (s : State) : (run c s).2.client.face = s.client.face := by
  induction c generalizing s with
  | done o => rfl
  | exchange ask next ih =>
    obtain ⟨added, hf, -⟩ := State.exchange_frame ask s
    exact (ih _ _).trans hf.face
  | collect kind next ih =>
    obtain ⟨gets, hf, -⟩ := State.collect_frame kind s
    exact (ih _ _).trans hf.face
  | listing kind next ih =>
    obtain ⟨gets, -, -, hface⟩ := State.listing_frame kind s
    exact (ih _ _).trans hface
  | forget kind next ih => exact (ih _).trans (by rw [State.client_modifyMemo])
  | note message next ih => exact ih _

end Cloud

/-! ## 2. Commands -/

/-- A client knows the built-in service, or another of its name. -/
def Client.Equipped (c : Client) : Prop := (c.find? containerInfra).isSome = true

namespace Client

theorem Equipped.congr {c c' : Client} (h : c.Equipped) (hface : c'.face = c.face) :
    c'.Equipped := by
  unfold Equipped
  rw [find?_congr hface]
  exact h

theorem Equipped.register {c : Client} (h : c.Equipped) (x : Service) :
    (c.register x).Equipped := by
  unfold Equipped find? at h ⊢
  rw [Option.isSome_map] at h ⊢
  obtain ⟨y, hy⟩ := Option.isSome_iff_exists.mp h
  show (((c.services ++ [x]).zipIdx.filter fun p => p.1.name == containerInfra).getLast?).isSome = _
  rw [List.zipIdx_append, List.filter_append, List.getLast?_append, hy]
  simp

end Client

namespace Session

theorem equipped_perform {s : Session} (h : s.client.Equipped) (c : Command) :
    (s.perform c).2.client.Equipped := by
  unfold perform
  cases s.call? c with
  | some call => exact h.congr (Cloud.face_run call s.state)
  | none =>
    cases c with
    | endpointOf name => exact h.congr (Cloud.State.frame_endpointOf name s.state).face
    | ownEndpoint => exact h.congr (Cloud.State.frame_endpoint 0 s.state).face
    | addService name endpoint headers => exact h.register _
    | initInstance settings =>
      show (s.initInstance settings).client.Equipped
      unfold initInstance
      split
      · exact h
      · exact rfl
    | sharedInstance =>
      show (if s.shared then s.answer _ else (.error noInstance, s)).2.client.Equipped
      split <;> exact h
    | _ => exact h

/-- However a session has been used, its cloud has an endpoint for its requests. -/
theorem exists_base_play (settings : Settings) (strict : Bool) (place : Json)
    (cacheExpiration : Option Float) (clock : Float) (steps : List Step) :
    ∃ base, ((start settings strict place cacheExpiration clock).play steps).state.baseOf
      containerInfra = .ok base := by
  have key : ∀ (steps : List Step) (s : Session), s.client.Equipped →
      (s.play steps).client.Equipped := by
    intro steps
    induction steps with
    | nil => exact fun s h => h
    | cons x xs ih =>
      intro s h
      refine ih _ ?_
      cases x with
      | command c replies => exact equipped_perform (s := s.fresh replies) h c
      | advance ms => exact h
  have hplay := key steps (start settings strict place cacheExpiration clock) rfl
  obtain ⟨i, hi⟩ := Option.isSome_iff_exists.mp hplay
  rw [Cloud.State.baseOf_eq]
  rw [show ((start settings strict place cacheExpiration clock).play steps).state.client.find?
    containerInfra = some i from hi]
  exact ⟨_, rfl⟩

end Session

end MagnumClient
