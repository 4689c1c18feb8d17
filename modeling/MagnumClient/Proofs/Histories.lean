/-
MagnumClient.Proofs.Histories — what steps and runs add to the history of a machine.

`Tells` says what a step adds to the history. `moves_run` carries this over a run, and
`exists_step` finds the step that a moment of a run comes from.
-/
import MagnumClient.Proofs.Moves

namespace MagnumClient

namespace Cloud

namespace Machine

/-! ## 1. What a step adds to the history -/

theorem perform_eq (slot : Nat) (c : Call) (m : Machine) :
    m.perform slot c = Machine.perform slot c.rest { m with state := m.state.absorb c } := by
  induction c generalizing m with
  | forget kind next ih => exact ih _
  | note message next ih => exact ih _
  | _ => rfl

section

variable {Φ : Nat → Call → Prop} {m : Machine}

/-- A call that asks for a listing of which none is offered begins a flight. -/
theorem moves_listing_stale (slot : Nat) {kind : Kind} {next : Except Failure (List Json) → Call}
    (h : ∀ o, Φ slot (next o)) (hfresh : m.state.fresh? kind = none) :
    ∃ sends, Moves Φ m (m.perform slot (.listing kind next))
        (.opened slot kind m.state.flights.length :: sends) ∧ ∀ x ∈ sends, x.Plain := by
  obtain ⟨sends, hx, hsends⟩ := moves_openFlight (s := (m.state.begin kind).2) slot kind h
    (by simp [State.flights_begin]) fun hs => hs.begun kind
  refine ⟨sends, by simpa only [perform, hfresh, State.fst_begin] using hx, fun x hx => ?_⟩
  obtain ⟨r, rfl⟩ := hsends x hx
  exact trivial

theorem moves_absorb (Φ : Nat → Call → Prop) (m : Machine) (c : Call) :
    Moves Φ m { m with state := m.state.absorb c } [] :=
  moves_state Φ m (Nat.le_of_eq (by rw [State.flights_absorb])) fun hs => hs.absorb c

/-- What a call does in its turn: it returns, or sends at most a request, or is
given a flight. -/
theorem moves_perform (slot : Nat) (c : Call) (h : ∀ c', c.Goes c' → Φ slot c') :
    ∃ new, Moves Φ m (m.perform slot c) new ∧
      ((∀ x ∈ new, x.Plain) ∨
      (∃ o, c.rest = .done o ∧ new = [.returned slot o] ∧
        (m.perform slot c).state = m.state.absorb c) ∨
      (¬ c.Quiet ∧ ∃ x sends, new = x :: sends ∧ (∃ kind f, x.use? = some (slot, kind, f)) ∧
        ∀ y ∈ sends, y.Plain)) := by
  have hmoves := moves_absorb Φ m c
  have plain : ∀ {owner : Owner} {new : List Moment},
      (∀ x ∈ new, ∃ r, x = .sent owner r) → ∀ x ∈ new, x.Plain := by
    intro owner new hnew x hx
    obtain ⟨r, rfl⟩ := hnew x hx
    exact trivial
  rw [perform_eq]
  have hquiet : c.Quiet → c.rest.Quiet := Call.Quiet.rest
  have hwaits := c.waits_rest
  unfold Call.Goes at h
  generalize c.rest = r at h hquiet hwaits
  cases r with
  | done o =>
    refine ⟨[.returned slot o], ?_, .inr (.inl ⟨o, rfl, rfl, rfl⟩)⟩
    exact hmoves.trans (moves_mark Φ _ (Nat.le_refl _) (fun hs => hs) rfl (by simp))
  | exchange ask next =>
    obtain ⟨new, hx, hnew⟩ := moves_exchange (Φ := Φ) (m := { m with state := m.state.absorb c })
      ask (.call slot next) fun o => h _ ⟨o, rfl⟩
    exact ⟨new, hmoves.trans hx, .inl (plain hnew)⟩
  | collect kind next =>
    obtain ⟨sends, hx, hsends⟩ := moves_openFlight (Φ := Φ)
      (m := { m with state := m.state.absorb c })
      (s := ((m.state.absorb c).takeOff kind none).2) slot kind (fun o => h _ ⟨o, rfl⟩)
      (by simp [State.takeOff]) fun hs => hs.takeOff kind none
    exact ⟨_, hmoves.trans hx, .inr (.inr ⟨hquiet, _, sends, rfl, ⟨_, _, rfl⟩, plain hsends⟩)⟩
  | listing kind next =>
    have hnext : ∀ o, Φ slot (next o) := fun o => h _ ⟨o, rfl⟩
    cases hfresh : (m.state.absorb c).fresh? kind with
    | some flight =>
      have hx := moves_joinFlight (m := { m with state := m.state.absorb c }) slot hnext hfresh
      refine ⟨[.joined slot kind flight], ?_,
        .inr (.inr ⟨hquiet, _, [], rfl, ⟨kind, flight, rfl⟩, List.forall_mem_nil _⟩)⟩
      simpa only [perform, hfresh, List.nil_append] using hmoves.trans hx
    | none =>
      obtain ⟨sends, hx, hsends⟩ :=
        moves_listing_stale (m := { m with state := m.state.absorb c }) slot hnext hfresh
      exact ⟨.opened slot kind (m.state.absorb c).flights.length :: sends, hmoves.trans hx,
        .inr (.inr ⟨hquiet, _, sends, rfl, ⟨kind, _, rfl⟩, hsends⟩)⟩
  | forget kind next => exact hwaits.elim
  | note message next => exact hwaits.elim

/-- Going on with a piece of work is doing a turn of a call, or adds no more than
requests to the history. -/
theorem proceed_cases {work : Work} (h : work.Under Φ m.state.flights.length) :
    (∃ new, Moves Φ m (m.proceed work) new ∧ ∀ x ∈ new, x.Plain) ∨
      ∃ slot c, Φ slot c ∧ m.proceed work = m.perform slot c := by
  cases work with
  | call slot c => exact .inr ⟨slot, c, h, rfl⟩
  | page flight kind link items =>
    obtain ⟨new, hx, hnew⟩ := moves_page flight kind link items h
    refine .inl ⟨new, hx, fun x hx => ?_⟩
    obtain ⟨r, rfl⟩ := hnew x hx
    exact trivial
  | land flight o => exact .inl ⟨[], moves_land Φ m flight o, fun _ hx => nomatch hx⟩

theorem moves_eraseIdx (Φ : Nat → Call → Prop) (m : Machine) (i : Nat) :
    Moves Φ m { m with queue := m.queue.eraseIdx i } [] where
  history := (List.append_nil _).symm
  count := Nat.le_refl _
  since hs := hs
  uses _ _ hx := nomatch hx
  sound hm :=
    { queue := fun p hp => hm.queue p (List.mem_of_mem_eraseIdx hp)
      waiters := hm.waiters
      sent := hm.sent }

/-- What a process does in its turn comes down to the turn of a call at its end,
if to anything more than requests and answers. -/
theorem act_cases {p : Process} (h : p.Under Φ m.state.flights.length) :
    (∃ new, Moves Φ m (m.act p) new ∧ ∀ x ∈ new, x.Plain) ∨
      ∃ m₁ first slot c, Moves Φ m m₁ first ∧ (∀ x ∈ first, x.Plain) ∧ Φ slot c ∧
        m.act p = m₁.perform slot c := by
  cases p with
  | going work =>
    rcases proceed_cases (m := m) h with hplain | ⟨slot, c, hc, heq⟩
    · exact .inl hplain
    · exact .inr ⟨m, [], slot, c, .refl Φ m, (fun _ hx => nomatch hx), hc, heq⟩
  | resolving service ask purpose =>
    have hgot : State.SameCaches m.state (m.state.gotEndpoint service).2 :=
      ⟨rfl, rfl, rfl, rfl, rfl⟩
    exact .inl ⟨_, (moves_caches Φ m hgot).trans (moves_enqueue h), fun _ hx => nomatch hx⟩
  | locating slot service =>
    have hgot : State.SameCaches m.state (m.state.gotEndpoint service).2 :=
      ⟨rfl, rfl, rfl, rfl, rfl⟩
    refine .inl ⟨_, moves_mark Φ m (Nat.le_refl _) (fun hs => hs.congr hgot) rfl (by simp),
      fun x hx => ?_⟩
    rw [List.mem_singleton.mp hx]
    exact trivial
  | sending ask base purpose =>
    obtain ⟨new, hx, hnew⟩ := moves_dispatch ask base h
    refine .inl ⟨new, hx, fun x hx => ?_⟩
    obtain ⟨r, rfl⟩ := hnew x hx
    exact trivial
  | answered ask request reply purpose =>
    have hf := State.frame_receive ask request reply m.state
    have hlen : (m.state.receive ask request reply).2.flights.length = m.state.flights.length := by
      rw [hf.caches.flights]
    have hread : Moves Φ m
        ({ m with state := (m.state.receive ask request reply).2 }.record
          (.answered purpose.owner)) [.answered purpose.owner] :=
      moves_mark Φ m (Nat.le_of_eq hlen.symm) (fun hs => hs.congr hf.caches) rfl (by simp)
    have hwork : (purpose.resume (m.state.receive ask request reply).1).Under Φ
        (m.state.receive ask request reply).2.flights.length := by
      rw [hlen]
      exact Purpose.Under.resume h _
    rcases proceed_cases (m := { m with state := (m.state.receive ask request reply).2 }.record
      (.answered purpose.owner)) hwork with ⟨new, hx, hnew⟩ | ⟨slot, c, hc, heq⟩
    · refine .inl ⟨_, hread.trans hx, fun x hx => ?_⟩
      rcases List.mem_append.mp hx with hx | hx
      · rw [List.mem_singleton.mp hx]
        exact trivial
      · exact hnew x hx
    · refine .inr ⟨_, _, slot, c, hread, fun x hx => ?_, hc, heq⟩
      rw [List.mem_singleton.mp hx]
      exact trivial

end

/-- A property of the calls under way that they keep while they go on. -/
def Closed (Φ : Nat → Call → Prop) : Prop := ∀ slot c c', Φ slot c → c.Goes c' → Φ slot c'

/-- What a step adds to the history: the beginning of a call only if that is what
happens, uses only by calls that read a listing, and the end of a call only as the
last moment, right after the steps that the call need not wait for. -/
structure Tells (Φ : Nat → Call → Prop) (m m' : Machine) (ev : Event) (new : List Moment) :
    Prop where
  moves : Moves Φ m m' new
  begun : ∀ slot c, .begun slot c ∈ new → ev = .begin slot c
  used : ∀ x ∈ new, ∀ slot kind f, x.use? = some (slot, kind, f) → ∃ c, Φ slot c ∧ ¬ c.Quiet
  returned : ∀ a slot o b, new = a ++ .returned slot o :: b →
    b = [] ∧ ∃ c s, Φ slot c ∧ c.rest = .done o ∧ m'.state = State.absorb c s

section

variable {Φ : Nat → Call → Prop} {m m' m₁ : Machine} {ev : Event} {new first : List Moment}

/-- Where a moment is that is not among the first. -/
theorem exists_of_append {x : Moment} {a b : List Moment} (h : first ++ new = a ++ x :: b)
    (hx : x ∉ first) : ∃ t, new = t ++ x :: b := by
  rcases List.append_eq_append_iff.mp h with ⟨t, -, ht⟩ | ⟨t, rfl, ht⟩
  · exact ⟨t, ht⟩
  · cases t with
    | nil => exact ⟨[], ht.symm⟩
    | cons z t =>
      obtain rfl : x = z := (List.cons.inj ht).1
      exact absurd (List.mem_append.mpr (.inr List.mem_cons_self)) hx

theorem tells_of_plain (h : Moves Φ m m' new) (hplain : ∀ x ∈ new, x.Plain) :
    Tells Φ m m' ev new where
  moves := h
  begun slot c hx := (hplain _ hx).elim
  used x hx slot kind f hu := by
    rw [(hplain x hx).use?] at hu
    cases hu
  returned a slot o b hnew :=
    (hplain (.returned slot o) (by rw [hnew]; simp)).elim

/-- A turn of a call. -/
theorem tells_perform {slot : Nat} {c : Call} (hΦ : Closed Φ) (hc : Φ slot c) :
    ∃ new, Tells Φ m (m.perform slot c) ev new := by
  obtain ⟨new, hx, hnew⟩ := moves_perform (m := m) slot c fun c' hg => hΦ slot c c' hc hg
  refine ⟨new, ?_⟩
  rcases hnew with hplain | ⟨o, hrest, rfl, hstate⟩ | ⟨hquiet, x, sends, rfl, ⟨kind, f, hu⟩, hsends⟩
  · exact tells_of_plain hx hplain
  · refine ⟨hx, fun s d hmem => ?_, fun y hmem s k g hu => ?_, fun a s o' b heq => ?_⟩
    · cases List.mem_singleton.mp hmem
    · rw [List.mem_singleton.mp hmem] at hu
      cases hu
    · cases a with
      | nil =>
        cases heq
        exact ⟨rfl, c, m.state, hc, hrest, hstate⟩
      | cons z a => simp at heq
  · refine ⟨hx, fun s d hmem => ?_, fun y hmem s k g hu' => ?_, fun a s o' b heq => ?_⟩
    · rcases List.mem_cons.mp hmem with rfl | hmem
      · cases hu
      · exact (hsends _ hmem).elim
    · rcases List.mem_cons.mp hmem with rfl | hmem
      · rw [hu] at hu'
        cases hu'
        exact ⟨c, hc, hquiet⟩
      · rw [(hsends y hmem).use?] at hu'
        cases hu'
    · have hmem : Moment.returned s o' ∈ x :: sends := by rw [heq]; simp
      rcases List.mem_cons.mp hmem with rfl | hmem
      · cases hu
      · exact (hsends _ hmem).elim

/-- What comes before the turn of a call: answers, or its beginning. -/
theorem Tells.after (slot : Nat) (c : Call) (h' : Tells Φ m₁ m' ev new)
    (h : Moves Φ m m₁ first)
    (hfirst : ∀ x ∈ first, x.Plain ∨ x = .begun slot c ∧ ev = .begin slot c) :
    Tells Φ m m' ev (first ++ new) := by
  refine ⟨h.trans h'.moves, ?_, ?_, ?_⟩
  · intro s d hmem
    rcases List.mem_append.mp hmem with hmem | hmem
    · rcases hfirst _ hmem with hplain | ⟨hx, rfl⟩
      · exact hplain.elim
      · cases hx
        rfl
    · exact h'.begun s d hmem
  · intro x hmem s kind f hu
    rcases List.mem_append.mp hmem with hmem | hmem
    · rcases hfirst _ hmem with hplain | ⟨rfl, rfl⟩
      · rw [hplain.use?] at hu
        cases hu
      · cases hu
    · exact h'.used x hmem s kind f hu
  · intro a s o b heq
    have hnot : Moment.returned s o ∉ first := by
      intro hmem
      rcases hfirst _ hmem with hplain | ⟨hx, -⟩
      · exact hplain
      · cases hx
    obtain ⟨t, ht⟩ := exists_of_append heq hnot
    exact h'.returned t s o b ht

/-- One step. -/
theorem tells_step (hΦ : Closed Φ) (hm : m.Sound Φ)
    (hev : ∀ slot c, ev = .begin slot c → Φ slot c) :
    ∃ new, Tells Φ m (m.step ev) ev new := by
  cases ev with
  | pass ms =>
    have hclock : ∀ {kind n}, m.state.Since kind n →
        State.Since kind n { m.state with clock := m.state.clock + ms } :=
      fun hs => ⟨hs.count, fun e he => hs.entry e (by
        rename_i kind n
        cases kind <;> exact he)⟩
    exact ⟨[], tells_of_plain (moves_state Φ m (Nat.le_refl _) hclock) fun _ hx => nomatch hx⟩
  | locate slot service =>
    obtain ⟨new, hx, hplain⟩ := moves_locate Φ m slot service
    exact ⟨new, tells_of_plain hx hplain⟩
  | begin slot c =>
    have hbegun : Moves Φ m (m.record (.begun slot c)) [.begun slot c] :=
      moves_mark Φ m (Nat.le_refl _) (fun hs => hs) rfl (by simp)
    obtain ⟨new, hnew⟩ := tells_perform (m := m.record (.begun slot c)) hΦ (hev slot c rfl)
    exact ⟨_, hnew.after slot c hbegun fun x hx => .inr ⟨List.mem_singleton.mp hx, rfl⟩⟩
  | turn i =>
    show ∃ new, Tells Φ m (m.turn i) (.turn i) new
    unfold turn
    cases hp : m.queue[i]? with
    | none => exact ⟨[], tells_of_plain (.refl Φ m) fun _ hx => nomatch hx⟩
    | some p =>
      have herase := moves_eraseIdx Φ m i
      have hunder := hm.queue p (List.mem_of_getElem? hp)
      rcases act_cases (m := { m with queue := m.queue.eraseIdx i }) hunder with
        ⟨new, hx, hplain⟩ | ⟨m₁, first, slot, c, hx, hplain, hc, heq⟩
      · exact ⟨_, tells_of_plain (herase.trans hx) hplain⟩
      · dsimp only
        rw [heq]
        obtain ⟨new, hnew⟩ := tells_perform (m := m₁) hΦ hc
        exact ⟨_, hnew.after slot c (herase.trans hx) fun x hx =>
          .inl (hplain x hx)⟩

end

/-! ## 2. What a run adds to the history -/

theorem sound_start (Φ : Nat → Call → Prop) (s : State) : (start s).Sound Φ where
  queue _ hp := nomatch hp
  waiters _ hw := nomatch hw
  sent _ _ hr := nomatch hr

section

variable {Φ : Nat → Call → Prop} {m : Machine} {events : List Event}

/-- A whole run. -/
theorem moves_run (hΦ : Closed Φ) (hm : m.Sound Φ)
    (hev : ∀ slot c, .begin slot c ∈ events → Φ slot c) :
    ∃ new, Moves Φ m (m.run events) new ∧
      (∀ slot c, .begun slot c ∈ new → .begin slot c ∈ events) ∧
      ∀ x ∈ new, ∀ slot kind f, x.use? = some (slot, kind, f) → ∃ c, Φ slot c ∧ ¬ c.Quiet := by
  induction events generalizing m with
  | nil => exact ⟨[], .refl Φ m, (fun _ _ hx => nomatch hx), fun _ hx => nomatch hx⟩
  | cons ev events ih =>
    obtain ⟨new, hstep⟩ := tells_step hΦ hm fun slot c h => hev slot c (h ▸ List.mem_cons_self)
    obtain ⟨more, hrun, hbegun, hused⟩ :=
      ih (hstep.moves.sound hm) fun slot c h => hev slot c (List.mem_cons_of_mem _ h)
    refine ⟨new ++ more, hstep.moves.trans hrun, ?_, ?_⟩
    · intro slot c hx
      rcases List.mem_append.mp hx with hx | hx
      · exact hstep.begun slot c hx ▸ List.mem_cons_self
      · exact List.mem_cons_of_mem _ (hbegun slot c hx)
    · intro x hx
      rcases List.mem_append.mp hx with hx | hx
      · exact hstep.used x hx
      · exact hused x hx

theorem run_split (m : Machine) (pre : List Event) (ev : Event) (post : List Event) :
    m.run (pre ++ ev :: post) = ((m.run pre).step ev).run post := by
  simp [run]

/-- Every moment of a run was added by one of its steps. -/
theorem exists_step (hΦ : Closed Φ) (hm : m.Sound Φ)
    (hev : ∀ slot c, .begin slot c ∈ events → Φ slot c) {a b : List Moment} {x : Moment}
    (h : (m.run events).history = m.history ++ (a ++ x :: b)) :
    ∃ pre ev post a₀ a₁ b₁ b₂, events = pre ++ ev :: post ∧ a = a₀ ++ a₁ ∧ b = b₁ ++ b₂ ∧
      (m.run pre).history = m.history ++ a₀ ∧ (m.run pre).Sound Φ ∧
      Tells Φ (m.run pre) ((m.run pre).step ev) ev (a₁ ++ x :: b₁) := by
  induction events generalizing m a with
  | nil =>
    have : a ++ x :: b = [] := List.append_cancel_left (h.symm.trans (List.append_nil _).symm)
    simp at this
  | cons ev events ih =>
    obtain ⟨new, hstep⟩ := tells_step hΦ hm fun slot c h => hev slot c (h ▸ List.mem_cons_self)
    have hm' := hstep.moves.sound hm
    have hev' : ∀ slot c, .begin slot c ∈ events → Φ slot c :=
      fun slot c h => hev slot c (List.mem_cons_of_mem _ h)
    obtain ⟨more, hrun, -⟩ := moves_run hΦ hm' hev'
    have hsplit : new ++ more = a ++ x :: b := by
      have := hrun.history
      rw [hstep.moves.history, List.append_assoc] at this
      exact List.append_cancel_left (this.symm.trans h)
    have later : ∀ t, a = new ++ t → more = t ++ x :: b →
        ∃ pre ev' post a₀ a₁ b₁ b₂, ev :: events = pre ++ ev' :: post ∧ a = a₀ ++ a₁ ∧
          b = b₁ ++ b₂ ∧ (m.run pre).history = m.history ++ a₀ ∧ (m.run pre).Sound Φ ∧
          Tells Φ (m.run pre) ((m.run pre).step ev') ev' (a₁ ++ x :: b₁) := by
      rintro t rfl rfl
      obtain ⟨pre, ev', post, a₀, a₁, b₁, b₂, rfl, rfl, rfl, hpre, hsound, htells⟩ :=
        ih hm' hev' (hrun.history)
      refine ⟨ev :: pre, ev', post, new ++ a₀, a₁, b₁, b₂, rfl, (List.append_assoc ..).symm, rfl,
        ?_, hsound, htells⟩
      show ((m.step ev).run pre).history = m.history ++ (new ++ a₀)
      rw [hpre, hstep.moves.history, List.append_assoc]
    rcases List.append_eq_append_iff.mp hsplit with ⟨t, rfl, ht⟩ | ⟨t, rfl, ht⟩
    · exact later t rfl ht
    · cases t with
      | nil => exact later [] (by simp) ht.symm
      | cons y t =>
        obtain ⟨rfl, rfl⟩ := List.cons.inj ht
        exact ⟨[], ev, events, [], a, t, more, rfl, rfl, rfl, (List.append_nil _).symm, hm, hstep⟩

end

end Machine

end Cloud

end MagnumClient
