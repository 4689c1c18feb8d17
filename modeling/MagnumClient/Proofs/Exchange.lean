/-
MagnumClient.Proofs.Exchange — what an exchange does, and what it leaves alone.

Statements about whole calls need two things of an exchange: which request it
adds to those that were sent, and that it leaves the rest of the state as later
steps expect it. For the rest there are two views of a state:

* `SameCaches` — the caches, the flights and the clock are the same, so listings
  are given as before.
* `Client.face` — what requests can see of a client. Asking for an endpoint and
  keeping it changes a client, but not its face (`face_keep` needs that nothing
  else is kept already): an endpoint that is kept is the one that was asked for.

`exchange_sent` is the request itself, for an ask that is relative to the
endpoint of a registered service. `pages_frame` says that reading pages adds
nothing but GET requests.
-/
import MagnumClient.Cloud.Run

namespace MagnumClient

/-! ## 1. The face of a client -/

/-- The endpoint that a service gives: the one it has kept, or else its own. -/
def Service.base (x : Service) : String := if x.kept.isEmpty then x.endpoint else x.kept

/-- What requests can see of a service. -/
def Service.face (x : Service) : String × String × Fields := (x.name, x.base, x.headers)

/-- What requests can see of a client. -/
def Client.face (c : Client) : Settings × String × List (String × String × Fields) :=
  (c.settings, c.token, c.services.map Service.face)

@[simp] theorem Service.face_ask (x : Service) : x.ask.face = x.face := rfl

/-- An endpoint that is asked for because none is kept is the one that is kept
from then on. -/
theorem Service.face_keep {x : Service} (h : x.kept.isEmpty = true) : x.keep.face = x.face := by
  have hk : x.keep.base = x.endpoint := by
    unfold base keep
    split <;> rfl
  have hx : x.base = x.endpoint := if_pos h
  simp only [face, hk, hx]
  rfl

namespace Client

theorem face_modifyService {c : Client} {i : Nat} {f : Service → Service}
    (h : ∀ x, c.services[i]? = some x → (f x).face = x.face) :
    (c.modifyService i f).face = c.face := by
  have hs : (c.services.modify i f).map Service.face = c.services.map Service.face := by
    apply List.ext_getElem?
    intro j
    rw [List.getElem?_map, List.getElem?_map, List.getElem?_modify]
    by_cases hj : i = j
    · subst hj
      cases hx : c.services[i]? with
      | none => rfl
      | some x => simp [h x hx]
    · simp [hj]
  simp only [face, modifyService, hs]

/-- Services are looked up by name alone. -/
theorem find?_congr {c c' : Client} (h : c.face = c'.face) (name : String) :
    c.find? name = c'.find? name := by
  have hs : c.services.map Service.face = c'.services.map Service.face :=
    congrArg (fun x => x.2.2) h
  have key : ∀ d : Client, d.find? name =
      ((((d.services.map Service.face).zipIdx).filter fun p => p.1.1 == name).getLast?).map
        (·.2) := by
    intro d
    rw [List.zipIdx_map, List.filter_map, List.getLast?_map, Option.map_map]
    rfl
  rw [key, key, hs]

/-- What a look-up finds is a service of that name. -/
theorem getElem?_of_find? {c : Client} {name : String} {i : Nat} (h : c.find? name = some i) :
    ∃ x, c.services[i]? = some x ∧ x.name = name := by
  unfold find? at h
  obtain ⟨⟨x, j⟩, hlast, hj⟩ := Option.map_eq_some_iff.mp h
  have hmem := List.mem_filter.mp (List.mem_of_getLast? hlast)
  obtain rfl : j = i := hj
  exact ⟨x, List.mem_zipIdx_iff_getElem?.mp hmem.1, by simpa using hmem.2⟩

end Client

namespace Cloud.State

/-! ## 2. The endpoint -/

/-- The endpoint of the service that a name stands for. -/
def baseOf (name : String) (s : State) : Except Failure String := (s.endpointOf name).1

theorem fst_endpoint (i : Nat) (s : State) :
    (s.endpoint i).1 = ((s.client.services[i]?).map Service.base).getD "" := by
  unfold endpoint
  cases hx : s.client.services[i]? with
  | none => rfl
  | some x =>
    cases hk : x.kept.isEmpty with
    | true =>
      simp [gotEndpoint, askEndpoint, Client.modifyService, hx, Service.base, hk, Service.ask]
    | false => simp [Service.base, hk]

theorem baseOf_eq (name : String) (s : State) :
    s.baseOf name =
      match s.client.find? name with
      | none => .error (Client.unregistered name)
      | some i => .ok (((s.client.services[i]?).map Service.base).getD "") := by
  unfold baseOf endpointOf
  cases s.client.find? name with
  | none => rfl
  | some i => simp [fst_endpoint]

/-- Endpoints are part of the face of a client. -/
theorem baseOf_congr {s s' : State} (h : s.client.face = s'.client.face) (name : String) :
    s.baseOf name = s'.baseOf name := by
  have hs : s.client.services.map Service.face = s'.client.services.map Service.face :=
    congrArg (fun x => x.2.2) h
  have hi : ∀ i : Nat, (s.client.services[i]?).map Service.base =
      (s'.client.services[i]?).map Service.base := by
    intro i
    have := congrArg (fun l => (l[i]?).map fun x : String × String × Fields => x.2.1) hs
    simpa [List.getElem?_map, Option.map_map, Function.comp_def, Service.face] using this
  rw [baseOf_eq, baseOf_eq, Client.find?_congr h]
  cases s'.client.find? name with
  | none => rfl
  | some i => simp only [hi i]

/-! ## 3. What exchanges leave alone -/

/-- The caches, the flights and the clock are the same. -/
structure SameCaches (s s' : State) : Prop where
  clusters : s'.clusters = s.clusters
  templates : s'.templates = s.templates
  flights : s'.flights = s.flights
  clock : s'.clock = s.clock
  limit : s'.limit = s.limit

namespace SameCaches

variable {s s' s'' : State}

theorem refl (s : State) : SameCaches s s := ⟨rfl, rfl, rfl, rfl, rfl⟩

theorem trans (h : SameCaches s s') (h' : SameCaches s' s'') : SameCaches s s'' where
  clusters := h'.clusters.trans h.clusters
  templates := h'.templates.trans h.templates
  flights := h'.flights.trans h.flights
  clock := h'.clock.trans h.clock
  limit := h'.limit.trans h.limit

theorem memo (h : SameCaches s s') (kind : Kind) : s'.memo kind = s.memo kind := by
  cases kind with
  | cluster => exact h.clusters
  | template => exact h.templates

theorem fresh? (h : SameCaches s s') (kind : Kind) : s'.fresh? kind = s.fresh? kind := by
  unfold State.fresh?
  rw [h.memo, h.limit, h.clock]

theorem outcome? (h : SameCaches s s') (flight : Nat) : s'.outcome? flight = s.outcome? flight := by
  unfold State.outcome?
  rw [h.flights]

end SameCaches

/-- The caches, what requests can see of the client, and the requests sent so
far, to which some are added. -/
structure Frame (s s' : State) (added : List Request) : Prop where
  caches : SameCaches s s'
  face : s'.client.face = s.client.face
  sent : s'.sent = s.sent ++ added

namespace Frame

variable {s s' s'' : State} {added more : List Request}

theorem refl (s : State) : Frame s s [] := ⟨.refl s, rfl, (List.append_nil _).symm⟩

theorem trans (h : Frame s s' added) (h' : Frame s' s'' more) : Frame s s'' (added ++ more) where
  caches := h.caches.trans h'.caches
  face := h'.face.trans h.face
  sent := by rw [h'.sent, h.sent, List.append_assoc]

theorem baseOf (h : Frame s s' added) (name : String) : s'.baseOf name = s.baseOf name :=
  baseOf_congr h.face name

end Frame

theorem frame_note (message : String) (s : State) : Frame s (s.note message) [] :=
  ⟨⟨rfl, rfl, rfl, rfl, rfl⟩, rfl, (List.append_nil _).symm⟩

theorem frame_endpoint (i : Nat) (s : State) : Frame s (s.endpoint i).2 [] := by
  unfold endpoint
  cases hx : s.client.services[i]? with
  | none => exact .refl s
  | some x =>
    cases hk : x.kept.isEmpty with
    | false => simpa [hk] using Frame.refl s
    | true =>
      simp only [hk, if_true]
      refine ⟨⟨rfl, rfl, rfl, rfl, rfl⟩, ?_, (List.append_nil _).symm⟩
      have hask : (s.client.modifyService i .ask).face = s.client.face :=
        Client.face_modifyService fun y _ => Service.face_ask y
      refine Eq.trans (Client.face_modifyService fun y hy => ?_) hask
      have hy' : x.ask = y := by
        simpa [askEndpoint, Client.modifyService, hx] using hy
      subst hy'
      exact Service.face_keep hk

theorem frame_endpointOf (name : String) (s : State) : Frame s (s.endpointOf name).2 [] := by
  unfold endpointOf
  cases s.client.find? name with
  | none => exact .refl s
  | some i => exact frame_endpoint i s

/-- What is read of a reply does not depend on the state. -/
theorem fst_receive (ask : Ask) (request : Request) (reply : Reply) (s : State) :
    (s.receive ask request reply).1 = (outcome ask request reply).mapError Failure.toCloud := by
  unfold receive
  cases outcome ask request reply <;> rfl

theorem frame_receive (ask : Ask) (request : Request) (reply : Reply) (s : State) :
    Frame s (s.receive ask request reply).2 [] := by
  unfold receive
  cases outcome ask request reply <;>
    exact ⟨⟨rfl, rfl, rfl, rfl, rfl⟩, rfl, (List.append_nil _).symm⟩

/-! ## 4. Requests -/

/-- A request is what was asked for at a base. -/
structure Answers (ask : Ask) (base : Path.Part) (request : Request) : Prop where
  method : request.method = ask.method
  url : request.url = Path.join [base, ask.place]
  body : request.body = ask.body.map sentBody

/-- The reply that the next request of a method will meet. -/
def nextReply (m : Method) (s : State) : Reply :=
  ((takeReply m s.replies).map (·.1)).getD .missing

theorem replies_endpointOf (name : String) (s : State) :
    (s.endpointOf name).2.replies = s.replies := by
  have he : ∀ i, (s.endpoint i).2.replies = s.replies := by
    intro i
    unfold endpoint
    cases s.client.services[i]? with
    | none => rfl
    | some x => cases hk : x.kept.isEmpty <;> simp [hk, askEndpoint, gotEndpoint]
  unfold endpointOf
  cases s.client.find? name with
  | none => rfl
  | some i => exact he i

theorem nextReply_endpointOf (m : Method) (name : String) (s : State) :
    (s.endpointOf name).2.nextReply m = s.nextReply m := by
  unfold nextReply
  rw [replies_endpointOf]

/-- Sending: for want of a service nothing is sent, or one request is. -/
theorem send_cases (ask : Ask) (base : Path.Part) (s : State) :
    (s.client.find? ask.sender.service = none ∧ ∃ f, s.send ask base = (.error f, s)) ∨
    ∃ request t, s.send ask base = (.ok (request, s.nextReply ask.method), t) ∧
      Answers ask base request ∧ Frame s t [request] := by
  unfold send
  cases hi : s.client.find? ask.sender.service with
  | none => exact .inl ⟨rfl, _, rfl⟩
  | some i =>
    obtain ⟨x, hx, -⟩ := Client.getElem?_of_find? hi
    right
    simp only [Option.bind_some, hx, nextReply]
    cases takeReply ask.method s.replies with
    | none => exact ⟨_, _, rfl, ⟨rfl, rfl, rfl⟩, ⟨rfl, rfl, rfl, rfl, rfl⟩, rfl, rfl⟩
    | some taken => exact ⟨_, _, rfl, ⟨rfl, rfl, rfl⟩, ⟨rfl, rfl, rfl, rfl, rfl⟩, rfl, rfl⟩

/-- How an exchange at a base can go. What one request comes to is what the reply
to it comes to. -/
theorem exchangeAt_cases (ask : Ask) (base : Path.Part) (s : State) :
    (s.client.find? ask.sender.service = none ∧ Frame s (s.exchangeAt ask base).2 []) ∨
    ∃ request, Answers ask base request ∧
      (s.exchangeAt ask base).1 =
        (outcome ask request (s.nextReply ask.method)).mapError Failure.toCloud ∧
      Frame s (s.exchangeAt ask base).2 [request] := by
  unfold exchangeAt
  rcases send_cases ask base s with ⟨hnone, f, hs⟩ | ⟨request, t, hs, ha, hf⟩
  · rw [hs]
    exact .inl ⟨hnone, .refl s⟩
  · rw [hs]
    exact .inr ⟨request, ha, fst_receive .., hf.trans (frame_receive ..)⟩

/-- An exchange adds at most one request, which uses the method asked for. -/
theorem exchange_frame (ask : Ask) (s : State) :
    ∃ added, Frame s (s.exchange ask).2 added ∧ added.length ≤ 1 ∧
      ∀ r ∈ added, r.method = ask.method := by
  have key : ∀ base t, ∃ added, Frame t (t.exchangeAt ask base).2 added ∧ added.length ≤ 1 ∧
      ∀ r ∈ added, r.method = ask.method := by
    intro base t
    rcases exchangeAt_cases ask base t with ⟨-, hf⟩ | ⟨request, ha, -, hf⟩
    · exact ⟨[], hf, Nat.zero_le _, by simp⟩
    · exact ⟨[request], hf, Nat.le_refl _, by simpa using ha.method⟩
  unfold exchange
  cases ask.base with
  | some base => exact key base s
  | none =>
    have hf := frame_endpointOf ask.sender.service s
    rcases he : s.endpointOf ask.sender.service with ⟨o, t⟩
    rw [he] at hf
    cases o with
    | error f => exact ⟨[], hf, Nat.zero_le _, by simp⟩
    | ok e =>
      obtain ⟨added, ha, hlen, hm⟩ := key (.segment e) t
      exact ⟨added, hf.trans ha, hlen, hm⟩

/-- An exchange at the endpoint of a registered service sends one request there. -/
theorem exchange_sent {ask : Ask} {s : State} {base : String} (hask : ask.base = none)
    (hbase : s.baseOf ask.sender.service = .ok base) :
    ∃ request, Answers ask (.segment base) request ∧
      (s.exchange ask).1 =
        (outcome ask request (s.nextReply ask.method)).mapError Failure.toCloud ∧
      Frame s (s.exchange ask).2 [request] := by
  have hf := frame_endpointOf ask.sender.service s
  have hr := nextReply_endpointOf ask.method ask.sender.service s
  unfold exchange
  rw [hask]
  unfold baseOf at hbase
  rcases he : s.endpointOf ask.sender.service with ⟨o, t⟩
  rw [he] at hf hr hbase
  obtain rfl : o = .ok base := hbase
  rw [← hr]
  rcases exchangeAt_cases ask (.segment base) t with ⟨hnone, -⟩ | ⟨request, ha, ho, hg⟩
  · -- the service was found, so it is found again
    have hsome := hf.baseOf ask.sender.service
    rw [baseOf_eq, hnone] at hsome
    rw [show s.baseOf ask.sender.service = .ok base from congrArg Prod.fst he] at hsome
    cases hsome
  · exact ⟨request, ha, ho, hf.trans hg⟩

/-! ## 5. Collections -/

/-- Reading pages sends nothing but GET requests. -/
theorem pages_frame (count : Nat) (kind : Kind) (link : Option Path.Part) (items : List Json)
    (s : State) :
    ∃ gets, Frame s (s.pages count kind link items).2 gets ∧ ∀ r ∈ gets, r.method = .get := by
  induction count generalizing link items s with
  | zero => exact ⟨[], .refl s, by simp⟩
  | succ count ih =>
    obtain ⟨added, hf, -, hm⟩ := exchange_frame (ContainerInfra.pageAsk kind link) s
    have hget : ∀ r ∈ added, r.method = .get := by
      intro r hr
      rw [hm r hr]
      cases link <;> rfl
    unfold pages
    rcases he : s.exchange (ContainerInfra.pageAsk kind link) with ⟨o, t⟩
    rw [he] at hf
    cases o with
    | error f => exact ⟨added, hf, hget⟩
    | ok data =>
      cases hp : ContainerInfra.readPage kind data with
      | error f => simpa only [hp] using ⟨added, hf, hget⟩
      | ok page =>
        obtain ⟨more, next⟩ := page
        cases next with
        | none => simpa only [hp] using ⟨added, hf, hget⟩
        | some next =>
          obtain ⟨gets, hg, hgets⟩ := ih (some next) (items ++ more) t
          refine ⟨added ++ gets, by simpa only [hp] using hf.trans hg, ?_⟩
          intro r hr
          rcases List.mem_append.mp hr with hr | hr
          · exact hget r hr
          · exact hgets r hr

theorem collect_frame (kind : Kind) (s : State) :
    ∃ gets, Frame s (s.collect kind).2 gets ∧ ∀ r ∈ gets, r.method = .get :=
  pages_frame ..

end Cloud.State

end MagnumClient
