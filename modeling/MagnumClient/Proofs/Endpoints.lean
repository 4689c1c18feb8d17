/-
MagnumClient.Proofs.Endpoints — how often a service is asked for its endpoint, and
where the requests on its behalf go.

A service is asked for its endpoint by every process that finds none kept, and what it
gives is kept only when a process gets it, one turn later. So the service is asked once
by everyone who comes in between. From then on no one asks: `Account.Step` lists what a
step can do to how often the service was asked, whether its endpoint is kept, and how
many wait for it; and an account in which nothing is kept has one asking for each that
waits. Hence `endpoint_asked_iff`: the service has been asked as often as there were most
processes waiting at a time, and at most once exactly if no two ever waited together.

However often it was asked, there is one endpoint. `Machine.Single` is the invariant: a
request on behalf of the service that has no base of its own is at each of its stages
bound for that endpoint.
-/
import MagnumClient.Cloud.Interleaving
import MagnumClient.Proofs.Listing
import Mathlib.Data.List.Perm.Basic

namespace MagnumClient

/-- What is asked on behalf of a service by its name, to be sent to its endpoint. -/
def Ask.Of (named : String → Option Nat) (i : Nat) (ask : Ask) : Prop :=
  ask.base = none ∧ named ask.sender.service = some i

/-- Services are found by their names alone. -/
theorem Client.find?_modifyService {f : Service → Service} (hf : ∀ x, (f x).name = x.name)
    (i : Nat) (c : Client) (name : String) : (c.modifyService i f).find? name = c.find? name := by
  have key : ∀ d : Client, d.find? name =
      ((((d.services.map Service.name).zipIdx).filter fun p => p.1 == name).getLast?).map
        (·.2) := by
    intro d
    rw [List.zipIdx_map, List.filter_map, List.getLast?_map, Option.map_map]
    rfl
  have hnames : (c.modifyService i f).services.map Service.name =
      c.services.map Service.name := by
    apply List.ext_getElem?
    intro j
    show ((c.services.modify i f).map Service.name)[j]? = _
    rw [List.getElem?_map, List.getElem?_map, List.getElem?_modify]
    split <;> cases c.services[j]? <;> simp [hf]
  rw [key, key, hnames]

namespace Cloud

theorem State.client_send (ask : Ask) (base : Path.Part) (s : State) :
    (s.send ask base).2.client = s.client := by
  unfold send
  split
  · rfl
  · dsimp only
    split <;> rfl

theorem State.client_begin (kind : Kind) (s : State) : (s.begin kind).2.client = s.client := by
  simp [begin, takeOff]

theorem State.client_receive (ask : Ask) (request : Request) (reply : Reply) (s : State) :
    (s.receive ask request reply).2.client = s.client := by
  unfold receive
  split <;> rfl

/-! ## 1. Who waits for an endpoint -/

/-- Whether a process has asked a service for its endpoint and not got it yet. -/
def Process.seeks (i : Nat) : Process → Bool
  | .resolving service _ _ => service == i
  | .locating _ service => service == i
  | _ => false

/-- A process treats what is asked of a service as one bound for an endpoint. -/
def Process.BoundFor (named : String → Option Nat) (i : Nat) (endpoint : String) : Process → Prop
  | .resolving service ask _ => ask.Of named i → service = i
  | .sending ask base _ => ask.Of named i → base = .segment endpoint
  | .answered ask request _ _ =>
    ask.Of named i → request.url = Path.join [.segment endpoint, ask.place]
  | _ => True

/-- What is to be known of a service's endpoint: how often it was asked for, whether it
is kept, and how many processes wait for it. -/
structure Account where
  asked : Nat
  kept : Bool
  seekers : Nat

/-- What can happen to that at a time. -/
inductive Account.Step : Account → Account → Prop
  | same (a : Account) : Step a a
  /-- A process finds no endpoint kept, asks and waits. -/
  | asks (asked seekers : Nat) : Step ⟨asked, false, seekers⟩ ⟨asked + 1, false, seekers + 1⟩
  /-- A process that waits gets the endpoint, which is kept. -/
  | gets (asked : Nat) (kept : Bool) (seekers : Nat) :
    Step ⟨asked, kept, seekers + 1⟩ ⟨asked, true, seekers⟩

/-- The account as it was, one more who asks and waits, or one less who waits. -/
theorem Account.Step.cases {a b : Account} (h : a.Step b) :
    b = a ∨ (a.kept = false ∧ b = ⟨a.asked + 1, false, a.seekers + 1⟩) ∨
      (b.asked = a.asked ∧ b.kept = true ∧ a.seekers = b.seekers + 1) := by
  cases h with
  | same => exact .inl rfl
  | asks => exact .inr (.inl ⟨rfl, rfl⟩)
  | gets => exact .inr (.inr ⟨rfl, rfl, rfl⟩)

namespace Machine

/-- How often a service was asked for its endpoint. -/
def asked (i : Nat) (m : Machine) : Nat :=
  ((m.state.client.services[i]?).map Service.asked).getD 0

/-- How many processes wait for the endpoint of a service. -/
def seekers (i : Nat) (m : Machine) : Nat := m.queue.countP (Process.seeks i)

/-- The most processes that wait for the endpoint of a service at a time of a run. -/
def mostSeekers (i : Nat) : Machine → List Event → Nat
  | m, [] => m.seekers i
  | m, e :: es => max (m.seekers i) (mostSeekers i (m.step e) es)

/-- The account of a service. -/
def account (i : Nat) (m : Machine) : Account where
  asked := m.asked i
  kept := ((m.state.client.services[i]?).map fun x => !x.kept.isEmpty).getD false
  seekers := m.seekers i

/-- A service has one endpoint, and all that is asked of the service is bound for it. -/
structure Single (named : String → Option Nat) (i : Nat) (endpoint : String) (m : Machine) :
    Prop where
  service : ∃ x, m.state.client.services[i]? = some x ∧ x.endpoint = endpoint ∧
    (x.kept.isEmpty = false → x.kept = endpoint)
  names : ∀ name, m.state.client.find? name = named name
  queue : ∀ p ∈ m.queue, p.BoundFor named i endpoint
  told : ∀ slot e, .told slot i e ∈ m.history → e = endpoint

/-! ## 2. What leaves the account alone -/

section

variable {named : String → Option Nat} {i : Nat} {endpoint : String} {m m' m'' : Machine}

/-- Something that does not concern the endpoint of a service. -/
def Aside (named : String → Option Nat) (i : Nat) (endpoint : String) (m m' : Machine) : Prop :=
  m.Single named i endpoint → m'.Single named i endpoint ∧ m'.account i = m.account i

theorem Aside.trans (h : Aside named i endpoint m m') (h' : Aside named i endpoint m' m'') :
    Aside named i endpoint m m'' := by
  intro hm
  obtain ⟨hs, ha⟩ := h hm
  obtain ⟨hs', ha'⟩ := h' hs
  exact ⟨hs', ha'.trans ha⟩

theorem aside_state {s : State} (h : s.client = m.state.client) :
    Aside named i endpoint m { m with state := s } := by
  intro hm
  refine ⟨⟨?_, ?_, hm.queue, hm.told⟩, ?_⟩
  · show ∃ x, s.client.services[i]? = some x ∧ _
    rw [h]
    exact hm.service
  · show ∀ name, s.client.find? name = named name
    rw [h]
    exact hm.names
  · unfold account asked
    dsimp only
    rw [h]
    rfl

theorem aside_enqueue {q : List Process} (hp : ∀ p ∈ q, p.BoundFor named i endpoint)
    (hs : ∀ p ∈ q, p.seeks i = false) :
    Aside named i endpoint m { m with queue := m.queue ++ q } := by
  intro hm
  refine ⟨{ hm with queue := fun p hmem => (List.mem_append.mp hmem).elim (hm.queue p) (hp p) }, ?_⟩
  have hnone : q.countP (Process.seeks i) = 0 :=
    List.countP_eq_zero.mpr fun p hmem => by simp [hs p hmem]
  have hcount : (m.queue ++ q).countP (Process.seeks i) = m.queue.countP (Process.seeks i) := by
    rw [List.countP_append, hnone, Nat.add_zero]
  unfold account seekers
  rw [hcount]
  rfl

theorem aside_record {x : Moment} (hx : ∀ slot e, x = .told slot i e → e = endpoint) :
    Aside named i endpoint m (m.record x) := by
  intro hm
  refine ⟨{ hm with told := fun slot e he => ?_ }, rfl⟩
  rcases List.mem_append.mp he with he | he
  · exact hm.told slot e he
  · exact hx slot e (List.mem_singleton.mp he).symm

theorem aside_waiters (ws : List Waiter) :
    Aside named i endpoint m { m with waiters := ws } :=
  fun hm => ⟨⟨hm.service, hm.names, hm.queue, hm.told⟩, rfl⟩

/-- What is sent on behalf of the service goes where it is bound for. -/
theorem aside_dispatch {ask : Ask} {base : Path.Part} (purpose : Purpose)
    (h : ask.Of named i → base = .segment endpoint) :
    Aside named i endpoint m (m.dispatch ask base purpose) := by
  have hclient := State.client_send ask base m.state
  unfold dispatch
  rcases State.send_cases ask base m.state with ⟨-, f, hs⟩ | ⟨request, t, hs, ha, -⟩
  · rw [hs]
    exact aside_enqueue (q := [_]) (by simp [Process.BoundFor]) (by simp [Process.seeks])
  · rw [hs] at hclient ⊢
    have hbound : (Process.answered ask request (m.state.nextReply ask.method) purpose).BoundFor
        named i endpoint := by
      intro hof
      rw [ha.url, h hof]
    have hsent : Aside named i endpoint { m with state := t }
        ({ m with state := t }.record (.sent purpose.owner request)) :=
      aside_record fun _ _ hx => nomatch hx
    exact (aside_state hclient).trans <| hsent.trans <|
      aside_enqueue (q := [_]) (by simpa using hbound) (by simp [Process.seeks])

theorem aside_land (flight : Nat) (o : Except Failure (List Json)) :
    Aside named i endpoint m (m.land flight o) := by
  unfold land
  generalize m.waiters.partition (fun w => w.flight == flight) = parts
  obtain ⟨ready, rest⟩ := parts
  have hstate : Aside named i endpoint m { m with state := m.state.land flight o } :=
    aside_state (State.client_land flight o m.state)
  have hgoing : Aside named i endpoint { m with state := m.state.land flight o }
      { m with
        state := m.state.land flight o
        queue := m.queue ++ ready.map fun w => .going (.call w.slot (w.next o)) } :=
    aside_enqueue (by simp [Process.BoundFor]) (by simp [Process.seeks])
  exact hstate.trans (hgoing.trans (aside_waiters rest))

theorem aside_joinFlight (slot : Nat) (kind : Kind) (flight : Nat)
    (next : Except Failure (List Json) → Call) :
    Aside named i endpoint m (m.joinFlight slot kind flight next) := by
  have hjoined : Aside named i endpoint m (m.record (.joined slot kind flight)) :=
    aside_record fun _ _ hx => nomatch hx
  unfold joinFlight
  dsimp only
  split
  · exact hjoined.trans
      (aside_enqueue (q := [_]) (by simp [Process.BoundFor]) (by simp [Process.seeks]))
  · exact hjoined.trans (aside_waiters _)

/-! ## 3. What a turn does to the account -/

/-- Something that happens at a time, as far as the endpoint of a service goes. -/
def Goes (named : String → Option Nat) (i : Nat) (endpoint : String) (m m' : Machine) : Prop :=
  m.Single named i endpoint →
    m'.Single named i endpoint ∧ Account.Step (m.account i) (m'.account i)

theorem Aside.goes (h : Aside named i endpoint m m') : Goes named i endpoint m m' := by
  intro hm
  obtain ⟨hs, ha⟩ := h hm
  exact ⟨hs, ha ▸ .same _⟩

theorem Aside.then (h : Aside named i endpoint m m') (h' : Goes named i endpoint m' m'') :
    Goes named i endpoint m m'' := by
  intro hm
  obtain ⟨hs, ha⟩ := h hm
  obtain ⟨hs', ha'⟩ := h' hs
  exact ⟨hs', ha ▸ ha'⟩

/-- Changing one service, whose name and endpoint stay. -/
theorem Single.modifyService (hm : m.Single named i endpoint) {f : Service → Service} {j : Nat}
    {s : State} (hs : s.client = m.state.client.modifyService j f)
    (hname : ∀ x, (f x).name = x.name) (hendpoint : ∀ x, (f x).endpoint = x.endpoint)
    (hkept : ∀ x, (f x).kept = x.kept ∨ (f x).kept = x.endpoint) :
    Single named i endpoint { m with state := s } where
  service := by
    obtain ⟨x, hx, he, hk⟩ := hm.service
    show ∃ x, s.client.services[i]? = some x ∧ _
    rw [hs]
    show ∃ x, (m.state.client.services.modify j f)[i]? = some x ∧ _
    rw [List.getElem?_modify, hx]
    by_cases hj : j = i
    · refine ⟨f x, by simp [hj], (hendpoint x).trans he, fun hne => ?_⟩
      rcases hkept x with hsame | hnew
      · rw [hsame] at hne ⊢
        exact hk hne
      · exact hnew.trans he
    · exact ⟨x, by simp [hj], he, hk⟩
  names name := by
    show s.client.find? name = _
    rw [hs, Client.find?_modifyService hname, hm.names]
  queue := hm.queue
  told := hm.told

/-- A process finds nothing kept, asks a service for its endpoint and waits. -/
theorem goes_ask {j : Nat} {x : Service} (hx : m.state.client.services[j]? = some x)
    (hk : x.kept.isEmpty = true) {p : Process} (hp : p.BoundFor named i endpoint)
    (hs : p.seeks i = (j == i)) :
    Goes named i endpoint m ({ m with state := m.state.askEndpoint j }.enqueue p) := by
  intro hm
  have hsingle : Single named i endpoint { m with state := m.state.askEndpoint j } :=
    hm.modifyService rfl (fun _ => rfl) (fun _ => rfl) fun _ => .inl rfl
  refine ⟨{ hsingle with queue := fun q hq => ?_ }, ?_⟩
  · rcases List.mem_append.mp hq with hq | hq
    · exact hm.queue q hq
    · rw [List.mem_singleton.mp hq]
      exact hp
  · have hasked : ({ m with state := m.state.askEndpoint j }.enqueue p).account i =
        ⟨((((m.state.client.services.modify j .ask)[i]?).map Service.asked).getD 0),
          (((m.state.client.services.modify j .ask)[i]?).map fun x => !x.kept.isEmpty).getD false,
          (m.queue ++ [p]).countP (Process.seeks i)⟩ := rfl
    rw [hasked, List.getElem?_modify, List.countP_append, List.countP_singleton, hs]
    by_cases hj : j = i
    · subst hj
      have hwas : m.account j = ⟨x.asked, false, m.seekers j⟩ := by
        simp [account, asked, hx, hk]
      rw [hwas, hx]
      simpa [Service.ask, hk, seekers] using Account.Step.asks x.asked (m.seekers j)
    · simpa [account, asked, seekers, hj] using Account.Step.same (m.account i)

/-- Beginning an exchange. -/
theorem goes_exchange (ask : Ask) (purpose : Purpose) :
    Goes named i endpoint m (m.exchange ask purpose) := by
  intro hm
  unfold exchange
  cases hb : ask.base with
  | some base =>
    have hnot : ¬ ask.Of named i := fun hof => by
      rw [hof.1] at hb
      cases hb
    exact (aside_dispatch purpose fun hof => absurd hof hnot).goes hm
  | none =>
    dsimp only
    have hnamed := hm.names ask.sender.service
    cases hf : m.state.client.find? ask.sender.service with
    | none =>
      exact (aside_enqueue (q := [_]) (by simp [Process.BoundFor])
        (by simp [Process.seeks])).goes hm
    | some j =>
      rw [hf] at hnamed
      -- who asks this service on behalf of the other asks the other
      have hsame : ask.Of named i → j = i := fun hof =>
        Option.some.inj (hnamed.trans hof.2)
      obtain ⟨x, hx, -⟩ := Client.getElem?_of_find? hf
      simp only [hx, Option.map_some]
      split
      · rename_i hk
        exact goes_ask hx hk hsame rfl hm
      · rename_i hk
        refine (aside_enqueue (q := [_]) ?_ (by simp [Process.seeks])).goes hm
        simp only [List.mem_singleton, forall_eq]
        intro hof
        obtain ⟨y, hy, -, hkept⟩ := hm.service
        rw [← hsame hof, hx] at hy
        obtain rfl := Option.some.inj hy
        rw [hkept (Bool.eq_false_iff.mpr hk)]

/-- Beginning to find out an endpoint. -/
theorem goes_locate (slot service : Nat) :
    Goes named i endpoint m (m.locate slot service) := by
  intro hm
  obtain ⟨x, hx, -, hkept⟩ := hm.service
  unfold locate
  cases hy : m.state.client.services[service]? with
  | none =>
    refine (aside_record ?_).goes hm
    rintro _ _ ⟨⟩
    rw [hx] at hy
    cases hy
  | some y =>
    simp only [Option.map_some]
    split
    · rename_i hk
      exact goes_ask hy hk trivial rfl hm
    · rename_i hk
      refine (aside_record ?_).goes hm
      rintro _ _ ⟨⟩
      rw [hx] at hy
      obtain rfl := Option.some.inj hy
      exact hkept (Bool.eq_false_iff.mpr hk)

theorem goes_openFlight (slot : Nat) (kind : Kind) (flight : Nat)
    (next : Except Failure (List Json) → Call) :
    Goes named i endpoint m (m.openFlight slot kind flight next) := by
  have hopened : Aside named i endpoint m (m.record (.opened slot kind flight)) :=
    aside_record fun _ _ hx => nomatch hx
  have hawait : Aside named i endpoint (m.record (.opened slot kind flight))
      ((m.record (.opened slot kind flight)).await flight slot next) := aside_waiters _
  exact hopened.then (hawait.then (goes_exchange (ContainerInfra.pageAsk kind none) _))

/-- The turn of a call. -/
theorem goes_perform (slot : Nat) (c : Call) : Goes named i endpoint m (m.perform slot c) := by
  induction c generalizing m with
  | done o =>
    have hreturned : Aside named i endpoint m (m.record (.returned slot o)) :=
      aside_record fun _ _ hx => nomatch hx
    exact hreturned.goes
  | exchange ask next => exact goes_exchange ask _
  | collect kind next =>
    have hbegun : Aside named i endpoint m { m with state := (m.state.takeOff kind none).2 } :=
      aside_state rfl
    exact hbegun.then (goes_openFlight slot kind _ next)
  | listing kind next =>
    unfold perform
    cases m.state.fresh? kind with
    | some flight => exact (aside_joinFlight slot kind flight next).goes
    | none =>
      have hbegun : Aside named i endpoint m { m with state := (m.state.begin kind).2 } :=
        aside_state (State.client_begin kind m.state)
      exact hbegun.then (goes_openFlight slot kind _ next)
  | forget kind next ih =>
    have hforgot : Aside named i endpoint m
        { m with state := m.state.modifyMemo kind .invalidate } :=
      aside_state (State.client_modifyMemo ..)
    exact hforgot.then ih
  | note message next ih =>
    have hnoted : Aside named i endpoint m { m with state := m.state.note message } :=
      aside_state rfl
    exact hnoted.then ih

theorem goes_proceed (work : Work) : Goes named i endpoint m (m.proceed work) := by
  cases work with
  | call slot c => exact goes_perform slot c
  | page flight kind link items => exact goes_exchange _ _
  | land flight o => exact (aside_land flight o).goes

/-! ## 4. Turns and steps -/

/-- A process gets the endpoint of a service. -/
theorem single_got (hm : m.Single named i endpoint) (he : endpoint ≠ "") (j : Nat) :
    Single named i endpoint { m with state := (m.state.gotEndpoint j).2 } ∧
      account i { m with state := (m.state.gotEndpoint j).2 } =
        if j = i then ⟨m.asked i, true, m.seekers i⟩ else m.account i := by
  refine ⟨hm.modifyService rfl (fun _ => rfl) (fun _ => rfl) fun _ => .inr rfl, ?_⟩
  obtain ⟨x, hx, rfl, -⟩ := hm.service
  show Account.mk ((((m.state.client.services.modify j .keep)[i]?).map Service.asked).getD 0)
      ((((m.state.client.services.modify j .keep)[i]?).map fun x => !x.kept.isEmpty).getD false)
      (m.seekers i) = _
  rw [List.getElem?_modify, hx]
  by_cases hj : j = i
  · simp [hj, asked, hx, Service.keep, he]
  · simp [hj, account, asked, hx]

/-- What it does with the endpoint besides concerns no account. -/
theorem Single.got (hm : m.Single named i endpoint) (he : endpoint ≠ "") (j : Nat)
    (h : Aside named i endpoint { m with state := (m.state.gotEndpoint j).2 } m') :
    m'.Single named i endpoint ∧
      if j == i then m'.account i = ⟨m.asked i, true, m.seekers i⟩
      else Account.Step (m.account i) (m'.account i) := by
  obtain ⟨hgot, haccount⟩ := single_got hm he j
  obtain ⟨hs, ha⟩ := h hgot
  refine ⟨hs, ?_⟩
  rw [haccount] at ha
  rw [ha]
  by_cases hj : j = i
  · simp [hj]
  · simpa [hj] using Account.Step.same (m.account i)

/-- A process that waits for the endpoint gets it. Any other goes on with something. -/
theorem act_account (hm : m.Single named i endpoint) (he : endpoint ≠ "") {p : Process}
    (hp : p.BoundFor named i endpoint) :
    (m.act p).Single named i endpoint ∧
      if p.seeks i then (m.act p).account i = ⟨m.asked i, true, m.seekers i⟩
      else Account.Step (m.account i) ((m.act p).account i) := by
  obtain ⟨x, hx, hendpoint, -⟩ := hm.service
  cases p with
  | going work => exact goes_proceed work hm
  | sending ask base purpose => exact (aside_dispatch purpose hp).goes hm
  | answered ask request reply purpose =>
    have hread : Aside named i endpoint m
        { m with state := (m.state.receive ask request reply).2 } :=
      aside_state (State.client_receive ask request reply m.state)
    have hanswered : Aside named i endpoint
        { m with state := (m.state.receive ask request reply).2 }
        ({ m with state := (m.state.receive ask request reply).2 }.record
          (.answered purpose.owner)) :=
      aside_record fun _ _ hx => nomatch hx
    exact hread.then (hanswered.then (goes_proceed _)) hm
  | resolving service ask purpose =>
    refine hm.got he service (aside_enqueue (q := [_]) ?_ (by simp [Process.seeks]))
    simp only [List.mem_singleton, forall_eq]
    intro hof
    have hservice : service = i := hp hof
    simp [hservice, hx, hendpoint]
  | locating slot service =>
    refine hm.got he service (aside_record ?_)
    rintro _ _ ⟨⟩
    simp [hx, hendpoint]

theorem goes_turn (he : endpoint ≠ "") (n : Nat) : Goes named i endpoint m (m.turn n) := by
  intro hm
  unfold turn
  cases hp : m.queue[n]? with
  | none => exact ⟨hm, .same _⟩
  | some p =>
    have hrest : Single named i endpoint { m with queue := m.queue.eraseIdx n } :=
      { hm with queue := fun q hq => hm.queue q (List.mem_of_mem_eraseIdx hq) }
    obtain ⟨hsingle, haccount⟩ := act_account hrest he (hm.queue p (List.mem_of_getElem? hp))
    refine ⟨hsingle, ?_⟩
    have hcount : m.seekers i =
        seekers i { m with queue := m.queue.eraseIdx n } + if p.seeks i then 1 else 0 := by
      obtain ⟨hlt, hget⟩ := List.getElem?_eq_some_iff.mp hp
      have hperm := (List.getElem_cons_eraseIdx_perm hlt).countP_eq (Process.seeks i)
      rw [hget, List.countP_cons] at hperm
      exact hperm.symm
    have hwas : m.account i = ⟨m.asked i, (m.account i).kept, m.seekers i⟩ := rfl
    cases hseeks : p.seeks i with
    | true =>
      rw [hseeks] at haccount hcount
      rw [hwas, hcount, show (Machine.act p _).account i = _ from haccount]
      exact .gets ..
    | false =>
      rw [hseeks] at haccount hcount
      have hsame : account i { m with queue := m.queue.eraseIdx n } = m.account i := by
        rw [hwas, hcount]
        rfl
      rw [← hsame]
      exact haccount

theorem goes_step (he : endpoint ≠ "") (ev : Event) : Goes named i endpoint m (m.step ev) := by
  cases ev with
  | begin slot c =>
    have hbegun : Aside named i endpoint m (m.record (.begun slot c)) :=
      aside_record fun _ _ hx => nomatch hx
    exact hbegun.then (goes_perform slot c)
  | locate slot service => exact goes_locate slot service
  | turn n => exact goes_turn he n
  | pass ms =>
    have hpassed : Aside named i endpoint m
        { m with state := { m.state with clock := m.state.clock + ms } } := aside_state rfl
    exact hpassed.goes

end

/-! ## 5. Runs -/

section

variable {named : String → Option Nat} {i : Nat} {endpoint : String} {m : Machine}

theorem single_run (hm : m.Single named i endpoint) (he : endpoint ≠ "") (events : List Event) :
    (m.run events).Single named i endpoint := by
  induction events generalizing m with
  | nil => exact hm
  | cons ev events ih => exact ih (goes_step he ev hm).1

/-- The most that wait at a time are as few as wait at every time. -/
theorem mostSeekers_le_iff {n : Nat} (events : List Event) :
    mostSeekers i m events ≤ n ↔ ∀ pre, pre <+: events → (m.run pre).seekers i ≤ n := by
  induction events generalizing m with
  | nil => simp [mostSeekers, run]
  | cons ev events ih =>
    unfold mostSeekers
    rw [Nat.max_le, ih]
    constructor
    · rintro ⟨hfirst, hrest⟩ pre hpre
      cases pre with
      | nil => exact hfirst
      | cons e pre =>
        obtain ⟨rfl, hpre'⟩ := List.cons_prefix_cons.mp hpre
        exact hrest pre hpre'
    · intro h
      refine ⟨h [] (List.nil_prefix ..), fun pre hpre => ?_⟩
      exact h (ev :: pre) (List.cons_prefix_cons.mpr ⟨rfl, hpre⟩)

theorem seekers_le_mostSeekers (events : List Event) : m.seekers i ≤ mostSeekers i m events :=
  (mostSeekers_le_iff events).mp (Nat.le_refl _) [] (List.nil_prefix ..)

/-- Once an endpoint is kept no one asks for it, and no one comes to wait. -/
theorem asked_run_of_kept (hm : m.Single named i endpoint) (he : endpoint ≠ "")
    (hkept : (m.account i).kept = true) (events : List Event) :
    (m.run events).asked i = m.asked i ∧ mostSeekers i m events = m.seekers i := by
  induction events generalizing m with
  | nil => exact ⟨rfl, rfl⟩
  | cons ev events ih =>
    obtain ⟨hs, hstep⟩ := goes_step he ev hm
    have hlater : ((m.step ev).account i).kept = true ∧ (m.step ev).asked i = m.asked i ∧
        (m.step ev).seekers i ≤ m.seekers i := by
      rcases hstep.cases with hsame | ⟨hnone, -⟩ | ⟨hasked, hkept', hless⟩
      · exact ⟨hsame ▸ hkept, congrArg Account.asked hsame,
          Nat.le_of_eq (congrArg Account.seekers hsame)⟩
      · rw [hkept] at hnone
        cases hnone
      · exact ⟨hkept', hasked, Nat.le_of_lt (Nat.lt_of_succ_le (Nat.le_of_eq hless.symm))⟩
    obtain ⟨hkept', hasked, hless⟩ := hlater
    obtain ⟨hrun, hmost⟩ := ih hs hkept'
    refine ⟨hrun.trans hasked, ?_⟩
    show max (m.seekers i) (mostSeekers i (m.step ev) events) = m.seekers i
    rw [hmost, Nat.max_eq_left hless]

/-- While none is kept, the service has been asked by those who wait. -/
theorem asked_run (hm : m.Single named i endpoint) (he : endpoint ≠ "")
    (hnone : (m.account i).kept = false) (hasked : m.asked i = m.seekers i)
    (events : List Event) : (m.run events).asked i = mostSeekers i m events := by
  induction events generalizing m with
  | nil => exact hasked
  | cons ev events ih =>
    obtain ⟨hs, hstep⟩ := goes_step he ev hm
    show ((m.step ev).run events).asked i =
      max (m.seekers i) (mostSeekers i (m.step ev) events)
    have hmost := seekers_le_mostSeekers (i := i) (m := m.step ev) events
    rcases hstep.cases with hsame | ⟨-, hmore⟩ | ⟨hasked', hkept, hless⟩
    · have hn : (m.step ev).seekers i = m.seekers i := congrArg Account.seekers hsame
      rw [ih hs (hsame ▸ hnone) ((congrArg Account.asked hsame).trans (hasked.trans hn.symm)),
        Nat.max_eq_right (hn ▸ hmost)]
    · have hn : (m.step ev).seekers i = m.seekers i + 1 := congrArg Account.seekers hmore
      have ha : (m.step ev).asked i = m.asked i + 1 := congrArg Account.asked hmore
      rw [ih hs (congrArg Account.kept hmore) (by omega), Nat.max_eq_right (by omega)]
    · -- the first to get it leaves behind all who asked before
      have hn : m.seekers i = (m.step ev).seekers i + 1 := hless
      have ha : (m.step ev).asked i = m.asked i := hasked'
      obtain ⟨hrun, hlast⟩ := asked_run_of_kept hs he hkept events
      rw [hrun, hlast, Nat.max_eq_left (by omega), ha, hasked]

end

/-! ## 6. Main statement -/

/-- A service that has not been used is asked for its endpoint, in any interleaving of
calls and of callers who want to know the endpoint, as often as there are most of them at
a time that wait for it. So it is asked at most once exactly if no two ever wait for it
together. Either way every request on its behalf that has no base of its own is sent to
its one endpoint, and everyone who wants to know the endpoint is told that. -/
theorem endpoint_asked_iff (s : State) (events : List Event) {i : Nat} {x : Service}
    (hx : s.client.services[i]? = some x) (hunused : x.kept = "" ∧ x.asked = 0)
    (hendpoint : x.endpoint ≠ "") :
    ((start s).run events).asked i = mostSeekers i (start s) events ∧
    (((start s).run events).asked i ≤ 1 ↔
      ∀ pre, pre <+: events → ((start s).run pre).seekers i ≤ 1) ∧
    (∀ ask request reply purpose,
      .answered ask request reply purpose ∈ ((start s).run events).queue → ask.base = none →
      s.client.find? ask.sender.service = some i →
      request.url = Path.join [.segment x.endpoint, ask.place]) ∧
    ∀ slot e, .told slot i e ∈ ((start s).run events).history → e = x.endpoint := by
  have hsingle : (start s).Single (fun name => s.client.find? name) i x.endpoint :=
    { service := ⟨x, hx, rfl, fun hk => by simp [hunused.1] at hk⟩
      names := fun _ => rfl
      queue := fun _ hp => nomatch hp
      told := fun _ _ ht => nomatch ht }
  have hnone : ((start s).account i).kept = false := by
    simp [account, start, hx, hunused.1]
  have hzero : (start s).asked i = (start s).seekers i := by
    simp [asked, seekers, start, hx, hunused.2]
  have hasked := asked_run hsingle hendpoint hnone hzero events
  have hrun := single_run hsingle hendpoint events
  refine ⟨hasked, hasked ▸ mostSeekers_le_iff events, ?_, hrun.told⟩
  intro ask request reply purpose hmem hbase hname
  exact hrun.queue _ hmem ⟨hbase, hname⟩

/-- A client with a service that is not used yet. -/
def computing : State :=
  .start ((Client.start ⟨"https://magnum.test/v1", "token", "latest", 5000⟩).register
    (.custom "Compute" "https://compute.test/v2" [])) none 0

/-- A request for a place of that service. -/
def computeCall (place : String) : Call :=
  .exchange
    { method := .get, base := none, place := .segment place, params := none, body := none
      sender := ⟨"Compute", "list"⟩, choices := .usual } .done

/-- One after the other, a caller who wants to know the endpoint and a request ask once. -/
theorem endpoint_asked_once :
    computing.client.services[1]? = some (.custom "Compute" "https://compute.test/v2" []) ∧
    ((start computing).run [.locate 0 1, .turn 0, .begin 1 (computeCall "/servers")]).asked 1 =
      1 := by
  have hx : computing.client.services[1]? =
      some (.custom "Compute" "https://compute.test/v2" []) := rfl
  obtain ⟨hasked, -⟩ := endpoint_asked_iff computing
    [.locate 0 1, .turn 0, .begin 1 (computeCall "/servers")] hx ⟨rfl, rfl⟩ (by decide)
  exact ⟨hx, hasked.trans (by decide)⟩

/-- Two requests at a time ask twice, and so do a request and a caller who wants to know
the endpoint. -/
theorem endpoint_asked_twice :
    ((start computing).run
      [.begin 0 (computeCall "/servers"), .begin 1 (computeCall "/flavors")]).asked 1 = 2 ∧
    ((start computing).run [.locate 0 1, .begin 1 (computeCall "/servers")]).asked 1 = 2 := by
  decide

end Machine

end Cloud

end MagnumClient
