/-
MagnumClient.Proofs.Invalidation — what calls are given after a change, in every
interleaving.

A call that creates or deletes a resource forgets the cached listing in the very
turn in which it reads the answer and returns. From then on the cache holds no
flight that had begun by then, and never will: flights are numbered in the order
in which they begin, an entry is only ever stored for a flight that begins, and
failures only clear. So a call that asks later is given a later flight, whatever
flights are still under way.

The proof follows that argument through the history of a run. The two halves of the
main statement, `listings_after_changes`, are `used_after_return` for creations and
deletions and `opened_by_update`.
-/
import MagnumClient.Proofs.Histories

namespace MagnumClient

namespace Cloud

namespace Machine

/-! ## 1. Calls and their numbers -/

/-- The number under which a call begins. -/
def Event.slot? : Event → Option Nat
  | .begin slot _ => some slot
  | _ => none

section

variable {events pre post : List Event} {d : Nat} {c c' : Call}

theorem mem_slots (h : .begin d c ∈ events) : d ∈ events.filterMap Event.slot? :=
  List.mem_filterMap.mpr ⟨_, h, rfl⟩

/-- No two calls have one number. -/
theorem false_of_begin_begin (h : ((pre ++ post).filterMap Event.slot?).Nodup)
    (hpre : .begin d c ∈ pre) (hpost : .begin d c' ∈ post) : False := by
  rw [List.filterMap_append] at h
  exact (List.nodup_append.mp h).2.2 d (mem_slots hpre) d (mem_slots hpost) rfl

theorem begin_unique (h : (events.filterMap Event.slot?).Nodup) (hc : .begin d c ∈ events)
    (hc' : .begin d c' ∈ events) : c' = c := by
  obtain ⟨l, r, rfl⟩ := List.append_of_mem hc
  rcases List.mem_append.mp hc' with hl | hr
  · exact (false_of_begin_begin h hl List.mem_cons_self).elim
  · rcases List.mem_cons.mp hr with heq | hr
    · cases heq
      rfl
    · rw [List.append_cons] at h
      exact (false_of_begin_begin h (List.mem_append.mpr (.inr (List.mem_singleton.mpr rfl)))
        hr).elim

end

/-- One call reads no listing. -/
def Hushed (d : Nat) (slot : Nat) (c : Call) : Prop := slot = d → c.Quiet

theorem closed_hushed (d : Nat) : Closed (Hushed d) := fun _ _ _ h hg heq => (h heq).goes hg

/-- While a call does not begin, it is given no flight. -/
theorem not_used {d : Nat} {m : Machine} {events : List Event} (hm : m.Sound (Hushed d))
    (hno : ∀ c, .begin d c ∉ events) :
    ∃ new, Moves (Hushed d) m (m.run events) new ∧
      ∀ x ∈ new, ∀ kind f, x.use? ≠ some (d, kind, f) := by
  have hev : ∀ slot c, Event.begin slot c ∈ events → Hushed d slot c := by
    rintro slot c hmem rfl
    exact absurd hmem (hno c)
  obtain ⟨new, hrun, -, hused⟩ := moves_run (closed_hushed d) hm hev
  refine ⟨new, hrun, fun x hx kind f hu => ?_⟩
  obtain ⟨c, hc, hquiet⟩ := hused x hx d kind f hu
  exact hquiet (hc rfl)

/-! ## 2. Main statement -/

/-- A call forgets the listing of a kind when it is loud, right before it returns. -/
def Forgetful (kind : Kind) (loud : Outcome → Bool) (d : Nat) (slot : Nat) (c : Call) : Prop :=
  slot = d → c.ForgetsWhen kind loud false

theorem closed_forgetful (kind : Kind) (loud : Outcome → Bool) (d : Nat) :
    Closed (Forgetful kind loud d) := fun _ _ _ h hg heq => (h heq).goes hg

/-- The step in which such a call returns is over with that, and leaves a cache
that holds nothing of what has begun. -/
theorem exists_return_step {s : State} {events : List Event} {kind : Kind}
    {loud : Outcome → Bool} {slot : Nat} {o : Outcome}
    (hev : ∀ n c, .begin n c ∈ events → Forgetful kind loud slot n c) (ho : loud o = true)
    {a b : List Moment} (h : ((start s).run events).history = a ++ .returned slot o :: b) :
    ∃ pre post m, events = pre ++ post ∧ (start s).run pre = m ∧
      m.history = a ++ [.returned slot o] ∧ (m.run post).history = m.history ++ b ∧
      m.state.Since kind m.state.flights.length ∧ m.Sound (Forgetful kind loud slot) := by
  obtain ⟨pre, ev, post, a₀, a₁, b₁, b₂, rfl, rfl, rfl, hpre, hsound, htells⟩ :=
    exists_step (closed_forgetful kind loud slot) (sound_start _ s) hev h
  obtain ⟨rfl, c, t, hc, hrest, hstate⟩ := htells.returned a₁ slot o b₁ rfl
  have hhistory : (((start s).run pre).step ev).history = a₀ ++ a₁ ++ [.returned slot o] := by
    rw [htells.moves.history, hpre]
    simp [start]
  have hsince : (((start s).run pre).step ev).state.Since kind
      (((start s).run pre).step ev).state.flights.length := by
    rw [hstate, State.flights_absorb]
    exact State.since_absorb (hc rfl) hrest ho nofun
  refine ⟨pre ++ [ev], post, ((start s).run pre).step ev, by simp, run_split (start s) pre ev [],
    hhistory, ?_, hsince, htells.moves.sound hsound⟩
  rw [← run_split, h, hhistory]
  simp

/-- After a creation or a deletion has returned. -/
theorem used_after_return {s : State} {events : List Event}
    (hslots : (events.filterMap Event.slot?).Nodup) {kind : Kind} {place : Json} {op : Operation}
    {slot : Nat} {o : Outcome} (hbegin : .begin slot (op.call place) ∈ events)
    (hchanged : op.changed kind o = true) {a b : List Moment}
    (h : ((start s).run events).history = a ++ .returned slot o :: b) :
    (∀ x ∈ b, ∀ d f, x.use? = some (d, kind, f) → ∀ r, .sent (.flight f) r ∉ a) ∧
    ∀ d c, .begun d c ∈ b → ∀ x ∈ a, ∀ kind' f, x.use? ≠ some (d, kind', f) := by
  have hop : ∀ target fields, op ≠ .update kind target fields := by
    rintro target fields rfl
    cases hchanged
  have hev : ∀ n c, Event.begin n c ∈ events → Forgetful kind (op.changed kind) slot n c := by
    rintro n c hmem rfl
    rw [begin_unique hslots hbegin hmem]
    exact forgetsWhen_call place kind op hop
  obtain ⟨pre, post, m, rfl, hm, hhistory, hb, hsince, hsound⟩ :=
    exists_return_step hev hchanged h
  have hpost : ∀ n c, Event.begin n c ∈ post → Forgetful kind (op.changed kind) slot n c :=
    fun n c hmem => hev n c (List.mem_append.mpr (.inr hmem))
  obtain ⟨new, hrun, hbegun, -⟩ := moves_run (closed_forgetful kind _ slot) hsound hpost
  obtain rfl : new = b := List.append_cancel_left (hrun.history.symm.trans hb)
  constructor
  · intro x hx d f hu r hr
    have hlt : f < m.state.flights.length :=
      hsound.sent f r (by rw [hhistory]; exact List.mem_append.mpr (.inl hr))
    exact absurd (hrun.uses hsince x hx d f hu) (Nat.not_le_of_lt hlt)
  · intro d c' hd x hx kind' f hu
    have hbefore : ∀ c, .begin d c ∉ pre := fun c hmem =>
      false_of_begin_begin hslots hmem (hbegun d c' hd)
    obtain ⟨all, hall, hno⟩ := not_used (sound_start (Hushed d) s) hbefore
    rw [hm] at hall
    obtain rfl : all = a ++ [.returned slot o] := hall.history.symm.trans hhistory
    exact hno x (List.mem_append.mpr (.inl hx)) kind' f hu

theorem eq_of_append_cons {x : Moment} {a b l : List Moment} (hx : x ∉ l)
    (h : a ++ x :: b = x :: l) : a = [] ∧ b = l := by
  cases a with
  | nil => exact ⟨rfl, (List.cons.inj h).2⟩
  | cons y a =>
    rw [← (List.cons.inj h).2] at hx
    exact absurd (List.mem_append.mpr (.inr List.mem_cons_self)) hx

/-- What an update goes on with reads no listing. -/
theorem quiet_update (kind : Kind) (text : String) (fields : Fields)
    (found : Except Failure Json) :
    (Call.andThen (fun e =>
      if e.isTruthy then ContainerInfra.update kind e fields
      else .fail (kind.notFound text)) found).Quiet := by
  cases found with
  | error f => exact trivial
  | ok e =>
    show Call.Quiet (if e.isTruthy then ContainerInfra.update kind e fields
      else .fail (kind.notFound text))
    split
    · unfold ContainerInfra.update
      cases Update.address e with
      | error f => exact trivial
      | ok id => exact fun o => trivial
    · exact trivial

/-- An update by name begins a flight at once. -/
theorem moves_begin_update (kind : Kind) (place : Json) (text : String) (fields : Fields) (d : Nat)
    (m : Machine) :
    ∃ sends, Moves (Hushed d) m
        (m.step (.begin d ((Operation.update kind (.name text) fields).call place)))
        (.begun d ((Operation.update kind (.name text) fields).call place) ::
          .opened d kind m.state.flights.length :: sends) ∧
      ∀ x ∈ sends, x.Plain := by
  have hforgot : Moves (Hushed d) m
      ({ m with state := m.state.modifyMemo kind .invalidate }.record
        (.begun d ((Operation.update kind (.name text) fields).call place)))
      [.begun d ((Operation.update kind (.name text) fields).call place)] :=
    moves_mark (Hushed d) m (Nat.le_of_eq (by rw [State.flights_modifyMemo]))
      (fun hs => hs.forget kind) rfl (by simp)
  obtain ⟨sends, hopened, hsends⟩ := moves_listing_stale (Φ := Hushed d)
    (m := { m with state := m.state.modifyMemo kind .invalidate }.record
      (.begun d ((Operation.update kind (.name text) fields).call place))) d
    (fun o _ => quiet_update kind text fields (lookUp kind text .all o))
    (State.fresh?_forget kind m.state)
  have hlen : (m.state.modifyMemo kind .invalidate).flights.length = m.state.flights.length := by
    rw [State.flights_modifyMemo]
  refine ⟨sends, ?_, hsends⟩
  rw [← hlen]
  exact hforgot.trans hopened

/-- An update by name looks its name up in a flight of its own. -/
theorem opened_by_update {s : State} {events : List Event}
    (hslots : (events.filterMap Event.slot?).Nodup) {kind : Kind} {place : Json} {text : String}
    {fields : Fields} {d : Nat} {a b : List Moment}
    (h : ((start s).run events).history =
      a ++ .begun d ((Operation.update kind (.name text) fields).call place) :: b) :
    ∃ f b', b = .opened d kind f :: b' ∧ (∀ r, .sent (.flight f) r ∉ a) ∧
      ∀ x ∈ a ++ b', ∀ kind' g, x.use? ≠ some (d, kind', g) := by
  generalize hupd : (Operation.update kind (.name text) fields).call place = upd at h
  obtain ⟨pre, ev, post, a₀, a₁, b₁, b₂, rfl, rfl, rfl, hpre, -, htells⟩ :=
    exists_step (Φ := fun _ _ => True) (fun _ _ _ _ _ => trivial) (sound_start _ s)
      (fun _ _ _ => trivial) h
  obtain rfl := htells.begun d upd (by simp)
  have hbefore : ∀ c, .begin d c ∉ pre := fun c hmem =>
    false_of_begin_begin hslots hmem List.mem_cons_self
  have hnodup : ((pre ++ [Event.begin d upd] ++ post).filterMap Event.slot?).Nodup := by
    simpa using hslots
  have hafter : ∀ c, .begin d c ∉ post := fun c hmem =>
    false_of_begin_begin hnodup (List.mem_append.mpr (.inr List.mem_cons_self)) hmem
  obtain ⟨all, hrun, hnone⟩ := not_used (sound_start (Hushed d) s) hbefore
  obtain ⟨sends, hupdate, hsends⟩ :=
    moves_begin_update kind place text fields d ((start s).run pre)
  rw [hupd] at hupdate
  have hm := hupdate.sound (hrun.sound (sound_start _ s))
  obtain ⟨new, hrest, hnone'⟩ := not_used hm hafter
  obtain rfl : all = a₀ := hrun.history.symm.trans hpre
  -- the call begins once in its first step
  have honce : Moment.begun d upd ∉
      Moment.opened d kind ((start s).run pre).state.flights.length :: sends := by
    intro hmem
    rcases List.mem_cons.mp hmem with heq | hmem
    · cases heq
    · exact (hsends _ hmem).elim
  obtain ⟨rfl, rfl⟩ := eq_of_append_cons honce
    (List.append_cancel_left (htells.moves.history.symm.trans hupdate.history))
  obtain rfl : new = b₂ := by
    rw [run_split, hrest.history, hupdate.history, hpre] at h
    simpa [start] using h
  refine ⟨_, _, rfl, fun r hr => ?_, fun x hx kind' g hu => ?_⟩
  · have hmem : Moment.sent (.flight ((start s).run pre).state.flights.length) r ∈
        ((start s).run pre).history := by
      rw [hpre]
      simpa [start] using hr
    exact Nat.lt_irrefl _ ((hrun.sound (sound_start _ s)).sent _ r hmem)
  · rcases List.mem_append.mp hx with hx | hx
    · exact hnone x (by simpa using hx) kind' g hu
    · rcases List.mem_append.mp hx with hx | hx
      · rw [(hsends x hx).use?] at hu
        cases hu
      · exact hnone' x hx kind' g hu

/-- In every interleaving of calls, a call that begins after a creation or a
deletion has returned is given no flight for which anything was sent before, and
an update by name is given one flight, which it begins itself and for which
nothing was sent before. -/
theorem listings_after_changes (s : State) (events : List Event)
    (hslots : (events.filterMap Event.slot?).Nodup) (kind : Kind) (place : Json) :
    (∀ (op : Operation) slot o a b, .begin slot (op.call place) ∈ events →
      op.changed kind o = true → ((start s).run events).history = a ++ .returned slot o :: b →
      ∀ d c, .begun d c ∈ b → ∀ x ∈ ((start s).run events).history, ∀ f,
        x.use? = some (d, kind, f) → ∀ r, .sent (.flight f) r ∉ a) ∧
    ∀ text fields d a b,
      ((start s).run events).history =
        a ++ .begun d ((Operation.update kind (.name text) fields).call place) :: b →
      ∃ f b', b = .opened d kind f :: b' ∧ (∀ r, .sent (.flight f) r ∉ a) ∧
        ∀ x ∈ a ++ b', ∀ kind' g, x.use? ≠ some (d, kind', g) := by
  constructor
  · intro op slot o a b hbegin hchanged h d c hd x hx f hu
    obtain ⟨hlater, hearlier⟩ := used_after_return hslots hbegin hchanged h
    rw [h] at hx
    rcases List.mem_append.mp hx with hx | hx
    · exact absurd hu (hearlier d c hd x hx kind f)
    · rcases List.mem_cons.mp hx with rfl | hx
      · cases hu
      · exact hlater x hx d f hu
  · intro text fields d a b h
    exact opened_by_update hslots h

/-- A listing is under way while a cluster is created, and fails after the clusters
have been listed again. -/
def overlapping : List Event :=
  [.begin 0 ((Operation.list .cluster).call .null), .turn 0, .turn 0,
    .begin 1 ((Operation.createCluster "web" "small" []).call .null), .turn 1, .turn 1,
    .begin 2 ((Operation.list .cluster).call .null), .turn 0,
    .begin 3 ((Operation.list .cluster).call .null)]

/-- A cloud that confirms one creation and answers nothing else. -/
def creating : State :=
  { State.start (.start ⟨"https://magnum.test/v1", "token", "latest", 5000⟩) none 0 with
    replies := [⟨some "POST", .answer ⟨201, "", some (.obj []), []⟩⟩] }

/-- The last call joins the flight that began after the creation, for which nothing
was sent before it. -/
theorem listings_after_creation :
    (overlapping.filterMap Event.slot?).Nodup ∧
    ∃ a o b, .begin 1 ((Operation.createCluster "web" "small" []).call .null) ∈ overlapping ∧
      (Operation.createCluster "web" "small" []).changed .cluster o = true ∧
      ((start creating).run overlapping).history = a ++ .returned 1 o :: b ∧
      .begun 3 ((Operation.list .cluster).call .null) ∈ b ∧ .joined 3 .cluster 1 ∈ b ∧
      ∀ r, .sent (.flight 1) r ∉ a := by
  have hslots : (overlapping.filterMap Event.slot?).Nodup := by decide
  have hsplit : ((start creating).run overlapping).history =
      ((start creating).run overlapping).history.take 6 ++
        .returned 1 (.ok (some (.obj (clusterAttributes "web" "small" [])))) ::
        ((start creating).run overlapping).history.drop 7 := rfl
  have hbegun : Moment.begun 3 ((Operation.list .cluster).call .null) ∈
      ((start creating).run overlapping).history.drop 7 :=
    List.mem_of_getElem? (i := 3) rfl
  have hjoined : Moment.joined 3 .cluster 1 ∈
      ((start creating).run overlapping).history.drop 7 :=
    List.mem_of_getElem? (i := 4) rfl
  have hbegin : Event.begin 1 ((Operation.createCluster "web" "small" []).call .null) ∈
      overlapping := List.mem_of_getElem? (i := 3) rfl
  obtain ⟨hafter, -⟩ := listings_after_changes creating overlapping hslots .cluster .null
  exact ⟨hslots, _, _, _, hbegin, rfl, hsplit, hbegun, hjoined,
    hafter _ 1 _ _ _ hbegin rfl hsplit 3 _ hbegun _ (List.mem_of_mem_drop hjoined) 1 rfl⟩

end Machine

end Cloud

end MagnumClient
