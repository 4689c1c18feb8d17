/-
MagnumClient.Proofs.Moves — what everything that happens to a machine keeps.

A machine is changed by the functions that its steps are put together from. `Moves` is what
each of them keeps, one lemma for each function: some moments are added to the history, flights
are numbered in the order in which they begin, and a cache that holds no flight from before a
number never will. `Sound` says that calls with a property are all that is under way.

`Call.rest` and `State.absorb` take the steps apart that a call does before it has to wait.
-/
import MagnumClient.Cloud.Interleaving
import MagnumClient.Proofs.Forgetting
import MagnumClient.Proofs.Listing

namespace MagnumClient

/-! ## 1. Steps that do not wait -/

namespace Call

/-- What is left of a call after the steps that it need not wait for. -/
def rest : Call → Call
  | .forget _ next => next.rest
  | .note _ next => next.rest
  | c => c

/-- A call has to wait, or is over. -/
def Waits : Call → Prop
  | .forget _ _ => False
  | .note _ _ => False
  | _ => True

theorem waits_rest (c : Call) : c.rest.Waits := by
  induction c with
  | forget kind next ih => exact ih
  | note message next ih => exact ih
  | _ => exact trivial

/-- What a call can go on with when it has waited for the first time. -/
def Goes (c c' : Call) : Prop :=
  match c.rest with
  | .exchange _ next => ∃ o, c' = next o
  | .collect _ next => ∃ o, c' = next o
  | .listing _ next => ∃ o, c' = next o
  | _ => False

/-- A call reads no listing, cached or not. -/
def Quiet : Call → Prop
  | .done _ => True
  | .exchange _ next => ∀ o, (next o).Quiet
  | .collect _ _ => False
  | .listing _ _ => False
  | .forget _ next => next.Quiet
  | .note _ next => next.Quiet

theorem ForgetsWhen.rest {kind : Kind} {loud : Outcome → Bool} {armed : Bool} {c : Call}
    (h : c.ForgetsWhen kind loud armed) : ∃ armed', c.rest.ForgetsWhen kind loud armed' := by
  induction c generalizing armed with
  | forget other next ih => exact ih h
  | note message next ih => exact ih h
  | _ => exact ⟨armed, h⟩

theorem ForgetsWhen.goes {kind : Kind} {loud : Outcome → Bool} {c c' : Call}
    (h : c.ForgetsWhen kind loud false) (hg : c.Goes c') : c'.ForgetsWhen kind loud false := by
  obtain ⟨armed, hrest⟩ := h.rest
  unfold Goes at hg
  generalize c.rest = r at hrest hg
  cases r with
  | exchange ask next => obtain ⟨o, rfl⟩ := hg; exact hrest.2 o
  | collect kind next => obtain ⟨o, rfl⟩ := hg; exact hrest.2 o
  | listing kind next => obtain ⟨o, rfl⟩ := hg; exact hrest.2 o
  | _ => exact hg.elim

theorem Quiet.rest {c : Call} (h : c.Quiet) : c.rest.Quiet := by
  induction c with
  | forget other next ih => exact ih h
  | note message next ih => exact ih h
  | _ => exact h

theorem Quiet.goes {c c' : Call} (h : c.Quiet) (hg : c.Goes c') : c'.Quiet := by
  have hrest := h.rest
  unfold Goes at hg
  generalize c.rest = r at hrest hg
  cases r with
  | exchange ask next => obtain ⟨o, rfl⟩ := hg; exact hrest o
  | collect kind next => exact hrest.elim
  | listing kind next => exact hrest.elim
  | _ => exact hg.elim

end Call

namespace Cloud

/-- Does the steps of a call that it need not wait for. -/
def State.absorb : Call → State → State
  | .forget kind next, s => absorb next (s.modifyMemo kind .invalidate)
  | .note message next, s => absorb next (s.note message)
  | _, s => s

namespace State

theorem flights_absorb (c : Call) (s : State) : (s.absorb c).flights = s.flights := by
  induction c generalizing s with
  | forget kind next ih => exact (ih _).trans (flights_modifyMemo ..)
  | note message next ih => exact ih _
  | _ => rfl

theorem Since.absorb {kind : Kind} {n : Nat} {s : State} (h : Since kind n s) (c : Call) :
    Since kind n (s.absorb c) := by
  induction c generalizing s with
  | forget other next ih => exact ih (h.forget other)
  | note message next ih => exact ih (h.congr (frame_note message s).caches)
  | _ => exact h

/-- A call that has forgotten, and is over without waiting again, leaves nothing
in the cache that has begun. -/
theorem since_absorb {kind : Kind} {loud : Outcome → Bool} {armed : Bool} {c : Call} {o : Outcome}
    {s : State} (h : c.ForgetsWhen kind loud armed) (hrest : c.rest = .done o)
    (ho : loud o = true) (hs : armed = true → Since kind s.flights.length s) :
    Since kind s.flights.length (s.absorb c) := by
  induction c generalizing armed s with
  | done o' =>
    obtain rfl : o' = o := by simpa [Call.rest] using hrest
    exact hs (h.symm.trans ho)
  | forget other next ih =>
    have hf := flights_modifyMemo other .invalidate s
    rw [← hf]
    refine ih h hrest fun harmed => ?_
    rw [hf]
    by_cases hk : other = kind
    · subst hk
      exact Since.of_forget other s
    · have : armed = true := by simpa [hk] using harmed
      exact (hs this).forget other
  | note message next ih =>
    refine ih (s := s.note message) h hrest fun harmed => ?_
    exact (hs harmed).congr (frame_note message s).caches
  | _ => cases hrest

end State

/-! ## 2. What a machine carries -/

/-- What a purpose may carry: calls with a property, and flights before a number. -/
def Purpose.Under (Φ : Nat → Call → Prop) (n : Nat) : Purpose → Prop
  | .call slot next => ∀ o, Φ slot (next o)
  | .page flight _ _ => flight < n

/-- What a piece of work may carry. -/
def Work.Under (Φ : Nat → Call → Prop) (n : Nat) : Work → Prop
  | .call slot c => Φ slot c
  | .page flight _ _ _ => flight < n
  | .land flight _ => flight < n

/-- What a process may carry. -/
def Process.Under (Φ : Nat → Call → Prop) (n : Nat) : Process → Prop
  | .going work => work.Under Φ n
  | .resolving _ _ purpose => purpose.Under Φ n
  | .sending _ _ purpose => purpose.Under Φ n
  | .answered _ _ _ purpose => purpose.Under Φ n
  | .locating _ _ => True

/-- Requests, answers and endpoints, as opposed to what calls do. -/
def Moment.Plain : Moment → Prop
  | .sent _ _ => True
  | .answered _ => True
  | .told _ _ _ => True
  | _ => False

/-- The flight that a call is given, by the number of the call, its kind and its
own number. -/
def Moment.use? : Moment → Option (Nat × Kind × Nat)
  | .joined slot kind flight => some (slot, kind, flight)
  | .opened slot kind flight => some (slot, kind, flight)
  | _ => none

theorem Moment.Plain.use? {x : Moment} (h : x.Plain) : x.use? = none := by
  cases x <;> first | rfl | exact h.elim

namespace Machine

/-- The calls that are under way have a property, and all flights that anything
is done for have begun. -/
structure Sound (Φ : Nat → Call → Prop) (m : Machine) : Prop where
  queue : ∀ p ∈ m.queue, p.Under Φ m.state.flights.length
  waiters : ∀ w ∈ m.waiters, ∀ o, Φ w.slot (w.next o)
  sent : ∀ f r, .sent (.flight f) r ∈ m.history → f < m.state.flights.length

/-- What everything that happens to a machine keeps. Some moments are added to the
history. -/
structure Moves (Φ : Nat → Call → Prop) (m m' : Machine) (new : List Moment) : Prop where
  history : m'.history = m.history ++ new
  count : m.state.flights.length ≤ m'.state.flights.length
  since : ∀ {kind n}, m.state.Since kind n → m'.state.Since kind n
  uses : ∀ {kind n}, m.state.Since kind n →
    ∀ x ∈ new, ∀ slot f, x.use? = some (slot, kind, f) → n ≤ f
  sound : m.Sound Φ → m'.Sound Φ

end Machine

theorem Purpose.Under.resume {Φ : Nat → Call → Prop} {n : Nat} {p : Purpose} (h : p.Under Φ n)
    (o : Outcome) : (p.resume o).Under Φ n := by
  cases p with
  | call slot next => exact h o
  | page flight kind items =>
    cases o with
    | error f => exact h
    | ok data =>
      unfold Purpose.resume
      dsimp only
      split <;> exact h

section

variable {Φ : Nat → Call → Prop} {n n' : Nat}

theorem Purpose.Under.mono {p : Purpose} (h : p.Under Φ n) (hn : n ≤ n') : p.Under Φ n' := by
  cases p with
  | call slot next => exact h
  | page flight kind items => exact Nat.lt_of_lt_of_le h hn

theorem Work.Under.mono {w : Work} (h : w.Under Φ n) (hn : n ≤ n') : w.Under Φ n' := by
  cases w with
  | call slot c => exact h
  | page flight kind link items => exact Nat.lt_of_lt_of_le h hn
  | land flight o => exact Nat.lt_of_lt_of_le h hn

theorem Process.Under.mono {p : Process} (h : p.Under Φ n) (hn : n ≤ n') : p.Under Φ n' := by
  cases p with
  | going work => exact Work.Under.mono h hn
  | resolving service ask purpose => exact Purpose.Under.mono h hn
  | sending ask base purpose => exact Purpose.Under.mono h hn
  | answered ask request reply purpose => exact Purpose.Under.mono h hn
  | locating slot service => exact trivial

end

namespace Machine

/-! ## 3. What the functions of a machine keep -/

section

variable {Φ : Nat → Call → Prop} {m m' m'' : Machine} {new more : List Moment}

theorem Moves.refl (Φ : Nat → Call → Prop) (m : Machine) : Moves Φ m m [] where
  history := (List.append_nil _).symm
  count := Nat.le_refl _
  since h := h
  uses _ _ hx := nomatch hx
  sound h := h

theorem Moves.trans (h : Moves Φ m m' new) (h' : Moves Φ m' m'' more) :
    Moves Φ m m'' (new ++ more) where
  history := by rw [h'.history, h.history, List.append_assoc]
  count := Nat.le_trans h.count h'.count
  since hs := h'.since (h.since hs)
  uses hs x hx := by
    rcases List.mem_append.mp hx with hx | hx
    · exact h.uses hs x hx
    · exact h'.uses (h.since hs) x hx
  sound hs := h'.sound (h.sound hs)

/-- Changing the state, where no flight is lost and no cache gets older. -/
theorem moves_state (Φ : Nat → Call → Prop) (m : Machine) {s : State}
    (hcount : m.state.flights.length ≤ s.flights.length)
    (hsince : ∀ {kind n}, m.state.Since kind n → s.Since kind n) :
    Moves Φ m { m with state := s } [] where
  history := (List.append_nil _).symm
  count := hcount
  since := hsince
  uses _ _ hx := nomatch hx
  sound h :=
    { queue := fun p hp => (h.queue p hp).mono hcount
      waiters := h.waiters
      sent := fun f r hr => Nat.lt_of_lt_of_le (h.sent f r hr) hcount }

theorem moves_caches (Φ : Nat → Call → Prop) (m : Machine) {s : State}
    (h : State.SameCaches m.state s) : Moves Φ m { m with state := s } [] :=
  moves_state Φ m (Nat.le_of_eq (by rw [h.flights])) fun hs => hs.congr h

theorem moves_enqueue {p : Process} (h : p.Under Φ m.state.flights.length) :
    Moves Φ m (m.enqueue p) [] where
  history := (List.append_nil _).symm
  count := Nat.le_refl _
  since hs := hs
  uses _ _ hx := nomatch hx
  sound hm :=
    { queue := fun q hq => by
        rcases List.mem_append.mp hq with hq | hq
        · exact hm.queue q hq
        · rw [List.mem_singleton.mp hq]
          exact h
      waiters := hm.waiters
      sent := hm.sent }

theorem moves_await (m : Machine) (flight : Nat) {slot : Nat}
    {next : Except Failure (List Json) → Call} (h : ∀ o, Φ slot (next o)) :
    Moves Φ m (m.await flight slot next) [] where
  history := (List.append_nil _).symm
  count := Nat.le_refl _
  since hs := hs
  uses _ _ hx := nomatch hx
  sound hm :=
    { queue := hm.queue
      waiters := fun w hw => by
        rcases List.mem_append.mp hw with hw | hw
        · exact hm.waiters w hw
        · rw [List.mem_singleton.mp hw]
          exact h
      sent := hm.sent }

/-- Changing the state and adding to the history. A use must be of a flight that
is new or that the cache offers, and a request must be for a flight that has
begun. -/
theorem moves_record (Φ : Nat → Call → Prop) (m : Machine) {s : State} {x : Moment}
    (hcount : m.state.flights.length ≤ s.flights.length)
    (hsince : ∀ {kind n}, m.state.Since kind n → s.Since kind n)
    (huse : ∀ {kind n}, m.state.Since kind n → ∀ slot f, x.use? = some (slot, kind, f) → n ≤ f)
    (hsent : ∀ f r, x = .sent (.flight f) r → f < s.flights.length) :
    Moves Φ m ({ m with state := s }.record x) [x] where
  history := rfl
  count := hcount
  since := hsince
  uses hs y hy := by
    rw [List.mem_singleton.mp hy]
    exact huse hs
  sound hm :=
    { queue := fun p hp => (hm.queue p hp).mono hcount
      waiters := hm.waiters
      sent := fun f r hr => by
        rcases List.mem_append.mp hr with hr | hr
        · exact Nat.lt_of_lt_of_le (hm.sent f r hr) hcount
        · exact hsent f r (List.mem_singleton.mp hr).symm }

/-- A moment that is neither a use nor a request may be recorded at any time. -/
theorem moves_mark (Φ : Nat → Call → Prop) (m : Machine) {s : State} {x : Moment}
    (hcount : m.state.flights.length ≤ s.flights.length)
    (hsince : ∀ {kind n}, m.state.Since kind n → s.Since kind n) (huse : x.use? = none)
    (hsent : ∀ owner r, x ≠ .sent owner r) : Moves Φ m ({ m with state := s }.record x) [x] := by
  refine moves_record Φ m hcount hsince ?_ fun f r hx => absurd hx (hsent _ r)
  intro kind n _ slot f hu
  rw [huse] at hu
  cases hu

theorem moves_dispatch (ask : Ask) (base : Path.Part) {purpose : Purpose}
    (h : purpose.Under Φ m.state.flights.length) :
    ∃ new, Moves Φ m (m.dispatch ask base purpose) new ∧
      ∀ x ∈ new, ∃ r, x = .sent purpose.owner r := by
  unfold dispatch
  rcases State.send_cases ask base m.state with ⟨-, f, hs⟩ | ⟨request, t, hs, -, hf⟩
  · rw [hs]
    exact ⟨[], moves_enqueue (m := m) (h.resume _), by simp⟩
  · rw [hs]
    have hflights : t.flights.length = m.state.flights.length := by rw [hf.caches.flights]
    have hsent : ∀ f r, Moment.sent purpose.owner request = .sent (.flight f) r →
        f < t.flights.length := by
      intro f r hr
      rw [hflights]
      cases purpose with
      | call slot next => cases hr
      | page flight kind items =>
        cases hr
        exact h
    have hrecord := moves_record Φ m (Nat.le_of_eq hflights.symm) (fun hs => hs.congr hf.caches)
      (fun _ _ _ hu => by cases hu) hsent
    have hunder : (Process.answered ask request (m.state.nextReply ask.method) purpose).Under Φ
        t.flights.length := by
      rw [hflights]
      exact h
    exact ⟨_, hrecord.trans (moves_enqueue hunder), by simp⟩

theorem moves_exchange (ask : Ask) (purpose : Purpose)
    (h : purpose.Under Φ m.state.flights.length) :
    ∃ new, Moves Φ m (m.exchange ask purpose) new ∧
      ∀ x ∈ new, ∃ r, x = .sent purpose.owner r := by
  unfold exchange
  cases ask.base with
  | some base => exact moves_dispatch ask base h
  | none =>
    cases m.state.client.find? ask.sender.service with
    | none => exact ⟨[], moves_enqueue (m := m) (h.resume _), by simp⟩
    | some i =>
      dsimp only
      split
      · split
        · have hask : State.SameCaches m.state (m.state.askEndpoint i) :=
            ⟨rfl, rfl, rfl, rfl, rfl⟩
          exact ⟨_, (moves_caches Φ m hask).trans (moves_enqueue h), by simp⟩
        · exact ⟨[], moves_enqueue (m := m) h, by simp⟩
      · exact ⟨[], moves_enqueue (m := m) h, by simp⟩

/-- Finding out an endpoint tells it, or asks for it and waits. -/
theorem moves_locate (Φ : Nat → Call → Prop) (m : Machine) (slot service : Nat) :
    ∃ new, Moves Φ m (m.locate slot service) new ∧ ∀ x ∈ new, x.Plain := by
  have told : ∀ e : String, ∃ new, Moves Φ m (m.record (.told slot service e)) new ∧
      ∀ x ∈ new, x.Plain := by
    intro e
    refine ⟨[.told slot service e],
      moves_mark Φ m (Nat.le_refl _) (fun hs => hs) rfl (by simp), fun x hx => ?_⟩
    rw [List.mem_singleton.mp hx]
    exact trivial
  unfold locate
  cases (m.state.client.services[service]?).map Service.kept with
  | none => exact told ""
  | some kept =>
    dsimp only
    split
    · have hask : State.SameCaches m.state (m.state.askEndpoint service) :=
        ⟨rfl, rfl, rfl, rfl, rfl⟩
      exact ⟨_, (moves_caches Φ m hask).trans (moves_enqueue trivial), by simp⟩
    · exact told kept

theorem moves_page (flight : Nat) (kind : Kind) (link : Option Path.Part) (items : List Json)
    (h : flight < m.state.flights.length) :
    ∃ new, Moves Φ m (m.page flight kind link items) new ∧
      ∀ x ∈ new, ∃ r, x = .sent (.flight flight) r :=
  moves_exchange (ContainerInfra.pageAsk kind link) (.page flight kind items) h

theorem land_eq (flight : Nat) (o : Except Failure (List Json)) (m : Machine) :
    m.land flight o =
      { m with
        state := m.state.land flight o
        queue := m.queue ++ (m.waiters.filter fun w => w.flight == flight).map fun w =>
          .going (.call w.slot (w.next o))
        waiters := m.waiters.filter fun w => !(w.flight == flight) } := by
  unfold land
  rw [List.partition_eq_filter_filter]
  rfl

/-- The end of a flight lets those go on that waited for it. -/
theorem moves_land (Φ : Nat → Call → Prop) (m : Machine) (flight : Nat)
    (o : Except Failure (List Json)) : Moves Φ m (m.land flight o) [] := by
  have hlen : (m.state.land flight o).flights.length = m.state.flights.length := by
    rw [State.flights_land, List.length_modify]
  rw [land_eq]
  exact
    { history := (List.append_nil _).symm
      count := Nat.le_of_eq hlen.symm
      since := fun hs => hs.land flight o
      uses := fun _ _ hx => nomatch hx
      sound := fun hm =>
        { queue := fun p hp => by
            rw [hlen]
            rcases List.mem_append.mp hp with hp | hp
            · exact hm.queue p hp
            · obtain ⟨w, hw, rfl⟩ := List.mem_map.mp hp
              exact hm.waiters w (List.mem_filter.mp hw).1 o
          waiters := fun w hw => hm.waiters w (List.mem_filter.mp hw).1
          sent := fun f r hr => by
            rw [hlen]
            exact hm.sent f r hr } }

/-- A call that begins a flight is the first to use it. -/
theorem moves_openFlight (slot : Nat) (kind : Kind) {next : Except Failure (List Json) → Call}
    {s : State} (h : ∀ o, Φ slot (next o))
    (hcount : s.flights.length = m.state.flights.length + 1)
    (hsince : ∀ {kind n}, m.state.Since kind n → s.Since kind n) :
    ∃ sends, Moves Φ m
        ({ m with state := s }.openFlight slot kind m.state.flights.length next)
        (.opened slot kind m.state.flights.length :: sends) ∧
      ∀ x ∈ sends, ∃ r, x = .sent (.flight m.state.flights.length) r := by
  have hopened : Moves Φ m ({ m with state := s }.record (.opened slot kind m.state.flights.length))
      [.opened slot kind m.state.flights.length] := by
    refine moves_record Φ m (by rw [hcount]; exact Nat.le_succ _) hsince ?_ ?_
    · rintro kind' n hs slot' f ⟨⟩
      exact hs.count
    · rintro f r ⟨⟩
  have hawait := moves_await
    ({ m with state := s }.record (.opened slot kind m.state.flights.length))
    m.state.flights.length h
  obtain ⟨sends, hpage, hsends⟩ := moves_page (Φ := Φ)
    (m := ({ m with state := s }.record (.opened slot kind m.state.flights.length)).await
      m.state.flights.length slot next) m.state.flights.length kind none []
    (by show m.state.flights.length < s.flights.length; rw [hcount]; exact Nat.lt_succ_self _)
  exact ⟨sends, (hopened.trans hawait).trans hpage, hsends⟩

/-- A call that is given a flight that began before is given the one that the
cache offers. -/
theorem moves_joinFlight (slot : Nat) {kind : Kind} {flight : Nat}
    {next : Except Failure (List Json) → Call} (h : ∀ o, Φ slot (next o))
    (hfresh : m.state.fresh? kind = some flight) :
    Moves Φ m (m.joinFlight slot kind flight next) [.joined slot kind flight] := by
  have hjoined : Moves Φ m (m.record (.joined slot kind flight)) [.joined slot kind flight] := by
    refine moves_record Φ m (Nat.le_refl _) (fun hs => hs) ?_ ?_
    · rintro kind' n hs slot' f ⟨⟩
      have := hs.offered
      rwa [State.offered, hfresh] at this
    · rintro f r ⟨⟩
  unfold joinFlight
  dsimp only
  split
  · exact hjoined.trans (moves_enqueue (h _))
  · exact hjoined.trans (moves_await _ flight h)

end

end Machine

end Cloud

end MagnumClient
