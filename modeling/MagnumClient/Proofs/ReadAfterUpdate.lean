/-
MagnumClient.Proofs.ReadAfterUpdate — what is read after an update.

An update forgets the cached listing and then looks its resource up, which caches
a listing again: one that was read before the request for the change is sent.
Nothing forgets that listing when the change is confirmed. So what is read after
an update may be as old as the update's own look-up, and is so until the listing
has expired or something else has made the cache drop it.

`Session.Renews` says when a step of a session makes the cache drop an entry:
something was created or deleted, an update begins, or a listing is asked for
when the entry has expired. `read_after_update_iff` is the exact condition.
-/
import MagnumClient.Proofs.Change
import MagnumClient.Proofs.Forgetting
import MagnumClient.Session

namespace MagnumClient

namespace Cloud

/-! ## 1. What calls keep -/

/-- A property of states that whatever happens in a session keeps. -/
structure Kept (P : State → Prop) : Prop where
  congr : ∀ {s s' : State}, State.SameCaches s s' → P s → P s'
  listing : ∀ (kind : Kind) {s : State}, P s → P (s.listing kind).2
  forget : ∀ (kind : Kind) {s : State}, P s → P (s.modifyMemo kind .invalidate)
  clock : ∀ (clock : Float) {s : State}, P s → P { s with clock := clock }

theorem caches_exchange (ask : Ask) (s : State) : State.SameCaches s (s.exchange ask).2 := by
  obtain ⟨added, hf, -⟩ := State.exchange_frame ask s
  exact hf.caches

theorem caches_collect (kind : Kind) (s : State) : State.SameCaches s (s.collect kind).2 := by
  obtain ⟨gets, hf, -⟩ := State.collect_frame kind s
  exact hf.caches

theorem Kept.run {P : State → Prop} (h : Kept P) (c : Call) {s : State} (hs : P s) :
    P (run c s).2 := by
  induction c generalizing s with
  | done o => exact hs
  | exchange ask next ih => exact ih _ (h.congr (caches_exchange ask s) hs)
  | collect kind next ih => exact ih _ (h.congr (caches_collect kind s) hs)
  | listing kind next ih => exact ih _ (h.listing kind hs)
  | forget kind next ih => exact ih (h.forget kind hs)
  | note message next ih => exact ih (h.congr (State.frame_note message s).caches hs)

theorem kept_since (kind : Kind) (n : Nat) : Kept (State.Since kind n) where
  congr hc hs := hs.congr hc
  listing _ _ hs := hs.listing
  forget other _ hs := hs.forget other
  clock _ _ hs := ⟨hs.count, fun e he => hs.entry e (by cases kind <;> exact he)⟩

/-- Flights are never forgotten. -/
theorem kept_count (n : Nat) : Kept fun s => n ≤ s.flights.length where
  congr hc hs := by rw [hc.flights]; exact hs
  listing kind s hs := by
    cases hf : s.fresh? kind with
    | some flight => rw [State.listing_of_fresh hf]; exact hs
    | none => rw [(State.listing_of_stale hf).count]; exact Nat.le_succ_of_le hs
  forget kind s hs := by rw [State.flights_modifyMemo]; exact hs
  clock _ _ hs := hs

/-- A flight that is over stays as it is. -/
theorem kept_outcome (flight : Nat) (o : Except Failure (List Json)) :
    Kept fun s => s.outcome? flight = some o where
  congr hc hs := by rw [hc.outcome?]; exact hs
  listing kind s hs := by
    cases hf : s.fresh? kind with
    | some flight => rw [State.listing_of_fresh hf]; exact hs
    | none => exact State.outcome?_listing_of_stale hf hs
  forget kind s hs := by unfold State.outcome?; rw [State.flights_modifyMemo]; exact hs
  clock _ _ hs := hs

/-- A call that forgets when it is loud, and does not ask for the listing itself,
empties the cache exactly then, and otherwise leaves its entry as it is. -/
theorem entry_run {kind : Kind} {loud : Outcome → Bool} {held : Option Cache.Entry} (c : Call)
    {armed : Bool} {s : State} (hc : c.ForgetsWhen kind loud armed) (hw : c.Without kind)
    (hs : (s.memo kind).entry = if armed then none else held) :
    ((run c s).2.memo kind).entry = if loud (run c s).1 then none else held := by
  induction c generalizing armed s with
  | done o =>
    obtain rfl : loud o = armed := hc
    exact hs
  | exchange ask next ih =>
    obtain ⟨rfl, hnext⟩ := hc
    have hx : ((s.exchange ask).2.memo kind).entry = held := by
      rw [(caches_exchange ask s).memo]
      exact hs
    exact ih _ (hnext _) (hw _) hx
  | collect other next ih =>
    obtain ⟨rfl, hnext⟩ := hc
    have hx : ((s.collect other).2.memo kind).entry = held := by
      rw [(caches_collect other s).memo]
      exact hs
    exact ih _ (hnext _) (hw _) hx
  | listing other next ih =>
    obtain ⟨rfl, hnext⟩ := hc
    have hx : ((s.listing other).2.memo kind).entry = held := by
      rw [State.memo_listing_of_ne s hw.1]
      exact hs
    exact ih _ (hnext _) (hw.2 _) hx
  | forget other next ih =>
    refine ih hc hw ?_
    by_cases hk : other = kind
    · subst hk
      simp [Cache.Memo.invalidate]
    · rw [State.memo_modifyMemo_of_ne _ s hk, hs]
      simp [hk]
  | note message next ih =>
    refine ih hc hw ?_
    rw [(State.frame_note message s).caches.memo]
    exact hs

end Cloud

open Cloud (State Kept)

/-! ## 2. Commands -/

namespace Command

/-- Whether a command updates a resource of a kind. -/
def updates (kind : Kind) : Command → Bool
  | .cloud (.update other _ _) => other == kind
  | _ => false

/-- Whether a command says, by what it came to, that it has created or deleted a
resource of a kind. -/
def changed (kind : Kind) : Command → Outcome → Bool
  | .cloud op, o => op.changed kind o
  | _, _ => false

/-- Whether a command asks for the cached listing of a kind. -/
def asks (kind : Kind) : Command → Bool
  | .cloud op => op.asks kind
  | .normalizedClusters => kind == .cluster
  | _ => false

/-- The state in which a command can ask for the listing of a kind: an update of
the kind has forgotten it before. -/
def ready (kind : Kind) (c : Command) (s : State) : State :=
  if c.updates kind then s.modifyMemo kind .invalidate else s

/-- The state in which a command has got the listing of a kind, if it asks for it. -/
def asked (kind : Kind) (c : Command) (s : State) : State :=
  if c.asks kind then ((c.ready kind s).listing kind).2 else c.ready kind s

theorem asked_of_asks {kind : Kind} {c : Command} {s : State} (h : c.asks kind = true) :
    c.asked kind s = ((c.ready kind s).listing kind).2 := if_pos h

theorem exists_update_of_updates {kind : Kind} {c : Command} (h : c.updates kind = true) :
    ∃ target fields, c = .cloud (.update kind target fields) := by
  unfold updates at h
  split at h
  · rename_i other target fields
    obtain rfl : other = kind := by simpa using h
    exact ⟨target, fields, rfl⟩
  · cases h

end Command

namespace Session

/-- The operations of the service know nothing of caches. -/
theorem service_shape (kind : Kind) (op : ContainerInfra.Operation) :
    op.call.ForgetsWhen kind (fun _ => false) false ∧ op.call.Without kind := by
  cases op with
  | list other =>
    refine ⟨⟨rfl, Call.forgetsWhen_andThen (fun items => ?_) fun _ => rfl⟩,
      Call.without_andThen fun items => ?_⟩
    · exact rfl
    · exact trivial
  | create other attributes =>
    cases other with
    | cluster => exact ⟨⟨rfl, fun o => rfl⟩, fun o => trivial⟩
    | template => exact ⟨⟨rfl, fun o => rfl⟩, fun o => trivial⟩
  | update other entity fields =>
    simp only [ContainerInfra.Operation.call, ContainerInfra.update]
    cases Update.address entity with
    | error f => exact ⟨rfl, trivial⟩
    | ok id => exact ⟨⟨rfl, fun o => rfl⟩, fun o => trivial⟩
  | delete other entity =>
    simp only [ContainerInfra.Operation.call, ContainerInfra.delete]
    cases Update.address entity with
    | error f => exact ⟨rfl, trivial⟩
    | ok id => exact ⟨⟨rfl, fun o => rfl⟩, fun o => trivial⟩
  | certificate clusterId => exact ⟨⟨rfl, fun o => rfl⟩, fun o => trivial⟩
  | sign clusterId csr => exact ⟨⟨rfl, fun o => rfl⟩, fun o => trivial⟩
  | services => exact ⟨⟨rfl, fun o => rfl⟩, fun o => trivial⟩

/-- What a command does to the listing of a kind that it does not update. -/
theorem call?_shape {kind : Kind} {c : Command} {s : Session} {call : Call}
    (hc : s.call? c = some call) (hu : c.updates kind = false) :
    call.ForgetsWhen kind (c.changed kind) false ∧ call.AsksFirst kind (c.asks kind) := by
  cases c with
  | cloud op =>
    obtain rfl := Option.some.inj hc
    have hop : ∀ target fields, op ≠ .update kind target fields := by
      rintro target fields rfl
      simp [Command.updates] at hu
    exact ⟨Cloud.forgetsWhen_call s.place kind op hop, Cloud.asksFirst_call s.place kind op hop⟩
  | normalizedClusters =>
    obtain rfl := Option.some.inj hc
    refine ⟨⟨rfl, Call.forgetsWhen_andThen (fun items => ?_) fun _ => rfl⟩, ?_⟩
    · refine Call.forgetsWhen_andThen (fun records => ?_) (fun _ => rfl) _
      exact rfl
    · have hnever : ∀ o, Call.Without kind (Call.andThen (fun items =>
          Call.andThen (fun rs => .value (.arr rs))
            (Record.normalizeAll Record.cluster s.strict s.place items)) o) := by
        refine Call.without_andThen fun items => Call.without_andThen (fun records => ?_) _
        exact trivial
      have h : (Call.listing .cluster _).AsksFirst kind (.cluster == kind) :=
        Call.asksFirst_listing hnever
      cases kind <;> exact h
  | service op =>
    obtain rfl := Option.some.inj hc
    exact service_shape kind op
  | request ask =>
    obtain rfl := Option.some.inj hc
    exact ⟨⟨rfl, fun o => rfl⟩, fun o => trivial⟩
  | _ => cases hc

theorem perform_of_call {c : Command} {s : Session} {call : Call} (h : s.call? c = some call) :
    s.perform c = ((Cloud.run call s.state).1, { s with state := (Cloud.run call s.state).2 }) := by
  unfold perform
  rw [h]

theorem perform_of_none {c : Command} {s : Session} (h : s.call? c = none) :
    s.perform c = s.atOnce c := by
  unfold perform
  rw [h]

/-- What is no call leaves the caches alone. -/
theorem caches_atOnce (c : Command) (s : Session) :
    State.SameCaches s.state (s.atOnce c).2.state := by
  cases c with
  | endpointOf name => exact (State.frame_endpointOf name s.state).caches
  | ownEndpoint => exact (State.frame_endpoint 0 s.state).caches
  | initInstance settings =>
    show State.SameCaches s.state (s.initInstance settings).state
    unfold initInstance
    split <;> exact ⟨rfl, rfl, rfl, rfl, rfl⟩
  | sharedInstance =>
    show State.SameCaches s.state
      (if s.shared then s.answer _ else (.error noInstance, s)).2.state
    split <;> exact .refl _
  | _ => exact ⟨rfl, rfl, rfl, rfl, rfl⟩

/-- What is no call has nothing to do with listings. -/
theorem silent_of_none {c : Command} {s : Session} (h : s.call? c = none) (kind : Kind) :
    c.updates kind = false ∧ c.asks kind = false ∧ ∀ o, c.changed kind o = false := by
  cases c <;> first | exact ⟨rfl, rfl, fun _ => rfl⟩ | cases h

/-- What is left of a call after it may have forgotten the listing of a kind. -/
theorem exists_rest (kind : Kind) {c : Command} {s : Session} {call : Call}
    (hcall : s.call? c = some call) :
    ∃ rest : Call, (∀ t, Cloud.run call t = Cloud.run rest (c.ready kind t)) ∧
      rest.ForgetsWhen kind (c.changed kind) false ∧ rest.AsksFirst kind (c.asks kind) := by
  cases hu : c.updates kind with
  | false =>
    refine ⟨call, fun t => ?_, call?_shape hcall hu⟩
    rw [Command.ready, hu]
    rfl
  | true =>
    obtain ⟨target, fields, rfl⟩ := Command.exists_update_of_updates hu
    obtain rfl := Option.some.inj hcall
    refine ⟨Cloud.revise kind target fields, fun t => ?_,
      Cloud.forgetsWhen_revise target fields fun _ => rfl, Cloud.asksFirst_revise ..⟩
    rw [Command.ready, hu]
    rfl

/-- What a command leaves in a cache: nothing if it has created or deleted a
resource, and otherwise what it found there when it had asked. -/
theorem entry_perform (kind : Kind) (c : Command) (s : Session) :
    ((s.perform c).2.state.memo kind).entry =
      if c.changed kind (s.perform c).1 then none
      else ((c.asked kind s.state).memo kind).entry := by
  cases hcall : s.call? c with
  | none =>
    obtain ⟨hu, ha, hch⟩ := silent_of_none hcall kind
    rw [perform_of_none hcall, hch, (caches_atOnce c s).memo]
    simp [Command.asked, Command.ready, hu, ha]
  | some call =>
    obtain ⟨rest, hrun, hforgets, hasks⟩ := exists_rest kind hcall
    rw [perform_of_call hcall, hrun]
    unfold Command.asked
    cases ha : c.asks kind with
    | false =>
      rw [ha] at hasks
      exact Cloud.entry_run rest hforgets hasks rfl
    | true =>
      rw [ha] at hasks
      obtain ⟨next, rfl, hnext⟩ := hasks
      exact Cloud.entry_run (next _) (hforgets.2 _) (hnext _) rfl

end Session

section Kept

variable {P : State → Prop} (h : Kept P) {s : Session}

include h

theorem Cloud.Kept.step (x : Session.Step) (hs : P s.state) : P (s.step x).state := by
  cases x with
  | advance ms => exact h.clock _ hs
  | command c replies =>
    have hsame : State.SameCaches s.state (s.fresh replies).state := ⟨rfl, rfl, rfl, rfl, rfl⟩
    have hfresh := h.congr hsame hs
    show P ((s.fresh replies).perform c).2.state
    cases hc : (s.fresh replies).call? c with
    | some call =>
      rw [Session.perform_of_call hc]
      exact h.run call hfresh
    | none =>
      rw [Session.perform_of_none hc]
      exact h.congr (Session.caches_atOnce c _) hfresh

theorem Cloud.Kept.play (steps : List Session.Step) (hs : P s.state) :
    P (s.play steps).state := by
  induction steps generalizing s with
  | nil => exact hs
  | cons x xs ih => exact ih (h.step x hs)

end Kept

namespace Session

/-! ## 3. When a cache drops an entry -/

/-- Whether a step makes the cache of a kind drop an entry: it updates a resource
of the kind, or it has created or deleted one, or it asks for the listing when the
entry has expired. -/
def Renews (kind : Kind) (e : Cache.Entry) (s : Session) : Step → Prop
  | .advance _ => False
  | .command c replies =>
    c.updates kind = true ∨ c.changed kind ((s.fresh replies).perform c).1 = true ∨
      c.asks kind = true ∧ Cache.Memo.expired s.state.limit s.state.clock e = true

/-- Whether one of several steps makes the cache of a kind drop an entry. -/
def RenewedBy (kind : Kind) (e : Cache.Entry) : Session → List Step → Prop
  | _, [] => False
  | s, x :: xs => s.Renews kind e x ∨ (s.step x).RenewedBy kind e xs

section

variable {kind : Kind} {e : Cache.Entry} {n : Nat} {s : Session}

/-- Where a cache drops an entry, what it gets in its place is newer. -/
theorem since_asked {c : Command} {t : State} (hn : n ≤ t.flights.length) (hs : t.Holds kind e)
    (h : c.updates kind = true ∨
      c.asks kind = true ∧ Cache.Memo.expired t.limit t.clock e = true) :
    ∀ x, (c.asked kind t).Holds kind x → n ≤ x.load := by
  intro x hx
  have hstale : (c.ready kind t).fresh? kind = none := by
    unfold Command.ready
    split <;> rename_i hu
    · exact State.fresh?_forget kind t
    · rw [State.fresh?_of_holds hs, (h.resolve_left hu).2]
      rfl
  have hflights : (c.ready kind t).flights = t.flights := by
    unfold Command.ready
    split
    · rw [State.flights_modifyMemo]
    · rfl
  unfold Command.asked State.Holds at hx
  split at hx <;> rename_i ha
  · rw [(State.listing_of_stale hstale).entry, hflights] at hx
    obtain ⟨-, -, rfl⟩ := Option.map_eq_some_iff.mp hx
    exact hn
  · -- an update that does not ask leaves nothing in the cache
    have hu := h.resolve_right fun hor => ha hor.1
    rw [Command.ready, if_pos hu, State.memo_modifyMemo_self] at hx
    cases hx

/-- Where it does not, nothing happens to it. -/
theorem asked_of_fresh {c : Command} {t : State} (hs : t.Holds kind e)
    (hu : c.updates kind = false)
    (h : ¬ (c.asks kind = true ∧ Cache.Memo.expired t.limit t.clock e = true)) :
    c.asked kind t = t := by
  have hready : c.ready kind t = t := by rw [Command.ready, hu, if_neg Bool.false_ne_true]
  unfold Command.asked
  rw [hready]
  split <;> rename_i ha
  · have hfresh := State.fresh?_of_holds hs
    rw [if_neg fun hx => h ⟨ha, hx⟩] at hfresh
    rw [State.listing_of_fresh hfresh]
  · rfl

/-- A step makes the cache drop an entry for good, or the cache holds it still. -/
theorem step_dropped_iff (x : Step) (hn : n ≤ s.state.flights.length)
    (hs : s.state.Holds kind e) :
    (s.Renews kind e x → (s.step x).state.Since kind n) ∧
    (¬ s.Renews kind e x → (s.step x).state.Holds kind e) := by
  cases x with
  | advance ms => exact ⟨False.elim, fun _ => hs.of_memo (by cases kind <;> rfl)⟩
  | command c replies =>
    have hsame : State.SameCaches s.state (s.fresh replies).state := ⟨rfl, rfl, rfl, rfl, rfl⟩
    have hholds := hs.congr hsame
    have hcount := (Cloud.kept_count n).step (.command c replies) hn
    have hentry := entry_perform kind c (s.fresh replies)
    constructor
    · rintro hrenews
      refine ⟨hcount, fun y hy => ?_⟩
      have hy' : (((s.fresh replies).perform c).2.state.memo kind).entry = some y := hy
      rw [hentry] at hy'
      split at hy' <;> rename_i hch
      · cases hy'
      · refine since_asked (c := c) (t := (s.fresh replies).state) hn hholds ?_ y hy'
        rcases hrenews with hu | hchanged | hasks
        · exact .inl hu
        · exact absurd hchanged hch
        · exact .inr hasks
    · intro hnot
      have hu : c.updates kind = false := by
        simpa using fun hu : c.updates kind = true => hnot (.inl hu)
      have hch : ¬ c.changed kind ((s.fresh replies).perform c).1 = true :=
        fun h => hnot (.inr (.inl h))
      rw [if_neg hch, asked_of_fresh hholds hu fun h => hnot (.inr (.inr h))] at hentry
      exact hentry.trans hholds

theorem play_dropped_iff (steps : List Step) (hn : n ≤ s.state.flights.length)
    (hs : s.state.Holds kind e) :
    (s.RenewedBy kind e steps → (s.play steps).state.Since kind n) ∧
    (¬ s.RenewedBy kind e steps → (s.play steps).state.Holds kind e) := by
  induction steps generalizing s with
  | nil => exact ⟨False.elim, fun _ => hs⟩
  | cons x xs ih =>
    obtain ⟨hdrop, hkeep⟩ := step_dropped_iff x hn hs
    have hn' := (Cloud.kept_count n).step x hn
    by_cases hx : s.Renews kind e x
    · refine ⟨fun _ => (Cloud.kept_since kind n).play xs (hdrop hx), fun hnot => ?_⟩
      exact absurd (.inl hx) hnot
    · obtain ⟨hdrop', hkeep'⟩ := ih hn' (hkeep hx)
      refine ⟨fun h => hdrop' (h.resolve_left hx), fun hnot => hkeep' fun h => hnot (.inr h)⟩

/-- After several steps the cache has been made to drop an entry or the entry has
expired, and nothing of before is offered; or the entry is what is offered. -/
theorem offered_cases (steps : List Step) (later : List Prepared)
    (hn : n ≤ s.state.flights.length) (hs : s.state.Holds kind e) {t : Session}
    (ht : (s.play steps).fresh later = t) :
    (s.RenewedBy kind e steps ∨ Cache.Memo.expired t.state.limit t.state.clock e = true) ∧
        n ≤ t.state.offered kind ∨
      ¬ (s.RenewedBy kind e steps ∨ Cache.Memo.expired t.state.limit t.state.clock e = true) ∧
        t.state.fresh? kind = some e.load := by
  have hsame : State.SameCaches (s.play steps).state t.state := by
    rw [← ht]
    exact ⟨rfl, rfl, rfl, rfl, rfl⟩
  obtain ⟨hdrop, hkeep⟩ := play_dropped_iff steps hn hs
  by_cases hrenewed : s.RenewedBy kind e steps
  · exact .inl ⟨.inl hrenewed, ((hdrop hrenewed).congr hsame).offered⟩
  · have hfresh := State.fresh?_of_holds ((hkeep hrenewed).congr hsame)
    cases hx : Cache.Memo.expired t.state.limit t.state.clock e with
    | true =>
      rw [hx, if_pos rfl] at hfresh
      refine .inl ⟨.inr rfl, ?_⟩
      unfold State.offered
      rw [hfresh]
      exact (Cloud.kept_count n).congr hsame ((Cloud.kept_count n).play steps hn)
    | false =>
      rw [hx, if_neg Bool.false_ne_true] at hfresh
      refine .inr ⟨?_, hfresh⟩
      rintro (h | h)
      · exact hrenewed h
      · cases h

end

end Session

/-! ## 4. Reading after an update -/

namespace Cloud

/-- A way to read a listing. -/
inductive Read where
  | list
  | search (name : Option String) (filter : Selection.Filter)
  | get (text : String) (filter : Selection.Filter)

namespace Read

/-- The operation that reads. -/
def operation (kind : Kind) : Read → Operation
  | list => .list kind
  | search name filter => .search kind name filter
  | get text filter => .get kind (.name text) filter

/-- What is read of a listing. -/
def answer (kind : Kind) : Read → Except Failure (List Json) → Outcome
  | list, listed => listed.map fun items => some (.arr items)
  | search name filter, listed =>
    listed.bind fun items =>
      (kind.resolver.select items name filter).map fun found => some (.arr (found.map (·.1)))
  | get text filter, listed => (lookUp kind text filter listed).map some

/-- Reading gets the listing and does nothing else. -/
theorem run_eq (kind : Kind) (place : Json) (r : Read) (s : State) :
    run ((r.operation kind).call place) s =
      (r.answer kind (s.listing kind).1, (s.listing kind).2) := by
  cases r with
  | list =>
    show run (Call.andThen _ (s.listing kind).1) (s.listing kind).2 = _
    cases (s.listing kind).1 <;> rfl
  | search name filter =>
    show run (Call.andThen _ (s.listing kind).1) (s.listing kind).2 = _
    cases (s.listing kind).1 with
    | error f => rfl
    | ok items =>
      show run (Call.andThen _ (kind.resolver.select items name filter)) (s.listing kind).2 = _
      cases hsel : kind.resolver.select items name filter <;>
        simp [answer, Except.bind, hsel, Except.map, Call.andThen, Call.value, Call.fail, run]
  | get text filter =>
    show run (Call.andThen _ (lookUp kind text filter (s.listing kind).1)) (s.listing kind).2 = _
    cases h : lookUp kind text filter (s.listing kind).1 <;>
      simp [answer, h, Except.map, Call.andThen, Call.value, Call.fail, run]

end Read

/-- What follows the look-up of an update does not touch the caches. -/
theorem caches_after_update (kind : Kind) (text : String) (fields : Fields)
    (found : Except Failure Json) (s : State) :
    State.SameCaches s (run ((Change.update fields).after kind text found) s).2 := by
  cases found with
  | error f => exact .refl s
  | ok e =>
    cases he : e.isTruthy with
    | false => simp [Change.after, Call.andThen, he, Call.fail, run, State.SameCaches.refl]
    | true =>
      by_cases hid : ∃ id, Update.Addressed e id
      · obtain ⟨id, hid⟩ := hid
        rw [Change.after_of_addressed kind text (.update fields) hid]
        exact caches_exchange ((Change.update fields).ask kind id) s
      · rw [Change.run_after_unaddressed kind text s (.update fields) he fun id h => hid ⟨id, h⟩]
        exact .refl s

/-- An update that succeeds leaves the listing of its own look-up in the cache. -/
theorem holds_after_update {kind : Kind} {place : Json} {text : String} {fields : Fields}
    {s : State} {v : Option Json}
    (hok : (run ((Operation.update kind (.name text) fields).call place) s).1 = .ok v) {t : State}
    (ht : (run ((Operation.update kind (.name text) fields).call place) s).2 = t) :
    ∃ records, ((Change.update fields).listing kind s).1 = .ok records ∧
      t.Holds kind ⟨s.flights.length, s.clock⟩ ∧ t.flights.length = s.flights.length + 1 ∧
      t.outcome? s.flights.length = some (.ok records) := by
  have hrenewed := State.listing_of_stale (State.fresh?_forget kind s)
  have hrun := Change.run_eq kind text s (.update fields) place
  simp only [Change.operation] at hrun
  rw [hrun] at hok ht
  subst ht
  cases hlisted : ((Change.update fields).listing kind s).1 with
  | error f =>
    rw [hlisted] at hok
    exact absurd ((congrArg Prod.fst (Change.run_after_error ..)).symm.trans hok) (by simp)
  | ok records =>
    have hcaches := caches_after_update kind text fields (lookUp kind text .all (.ok records))
      ((Change.update fields).listing kind s).2
    have hentry := hrenewed.entry
    have hcount := hrenewed.count
    have hover := hrenewed.outcome
    rw [show ((s.modifyMemo kind .invalidate).listing kind).1 = .ok records from hlisted]
      at hentry hover
    rw [State.flights_modifyMemo] at hentry hcount hover
    rw [State.clock_modifyMemo] at hentry
    refine ⟨records, rfl, ?_, ?_, ?_⟩
    · exact State.Holds.congr (s := ((Change.update fields).listing kind s).2) hentry hcaches
    · rw [hcaches.flights]
      exact hcount
    · rw [hcaches.outcome?]
      exact hover

end Cloud

namespace Session

open Cloud (Change)

/-- A read gets the listing and changes nothing else. -/
theorem perform_read (kind : Kind) (r : Cloud.Read) (s : Session) :
    s.perform (.cloud (r.operation kind)) =
      (r.answer kind (s.state.listing kind).1, { s with state := (s.state.listing kind).2 }) := by
  have hcall : s.call? (.cloud (r.operation kind)) = some ((r.operation kind).call s.place) := rfl
  rw [perform_of_call hcall, Cloud.Read.run_eq]

/-- A read after an update is answered from a flight that began after the update
was over exactly if the cache has been made to drop the listing that the update
looked its resource up in, or that listing has expired. Otherwise it is answered
from that listing, which was read before the change. -/
theorem read_after_update_iff (s : Session) (kind : Kind) (text : String) (fields : Fields)
    (replies : List Prepared) {v : Option Json}
    (hok : ((s.fresh replies).perform (.cloud (.update kind (.name text) fields))).1 = .ok v)
    (between : List Step) (later : List Prepared) (r : Cloud.Read) :
    let updated := s.step (.command (.cloud (.update kind (.name text) fields)) replies)
    let t := (updated.play between).fresh later
    let e : Cache.Entry := ⟨s.state.flights.length, s.state.clock⟩
    (updated.state.flights.length ≤ t.state.offered kind ↔
      updated.RenewedBy kind e between ∨
        Cache.Memo.expired t.state.limit t.state.clock e = true) ∧
    (t.perform (.cloud (r.operation kind))).1 =
      r.answer kind
        (((t.perform (.cloud (r.operation kind))).2.state.outcome? (t.state.offered kind)).getD
          (.error .nothing)) ∧
    (t.state.offered kind < updated.state.flights.length →
      ∃ records, ((Change.update fields).listing kind (s.fresh replies).state).1 = .ok records ∧
        t.perform (.cloud (r.operation kind)) = (r.answer kind (.ok records), t)) := by
  intro updated t e
  have hcall : (s.fresh replies).call? (.cloud (.update kind (.name text) fields)) =
      some ((Cloud.Operation.update kind (.name text) fields).call s.place) := rfl
  have hstate : (Cloud.run ((Cloud.Operation.update kind (.name text) fields).call s.place)
      (s.fresh replies).state).2 = updated.state := by
    show _ = ((s.fresh replies).perform _).2.state
    rw [perform_of_call hcall]
  rw [perform_of_call hcall] at hok
  obtain ⟨records, hlisted, hholds, hcount, hover⟩ := Cloud.holds_after_update hok hstate
  have hheld : updated.state.Holds kind e := hholds
  have ht : (updated.play between).fresh later = t := rfl
  have hcases := offered_cases between later (Nat.le_refl updated.state.flights.length) hheld ht
  have hread := perform_read kind r t
  have hanswer : (t.perform (.cloud (r.operation kind))).1 = r.answer kind
      (((t.perform (.cloud (r.operation kind))).2.state.outcome? (t.state.offered kind)).getD
        (.error .nothing)) := by
    rw [hread, ← State.fst_listing]
  refine ⟨?_, hanswer, fun hlt => ?_⟩ <;> rcases hcases with ⟨hor, hle⟩ | ⟨hnot, hfresh⟩
  · exact ⟨fun _ => hor, fun _ => hle⟩
  · have hoffered : t.state.offered kind = e.load := by
      unfold State.offered
      rw [hfresh]
      rfl
    rw [hoffered, hcount]
    exact ⟨fun hle => absurd hle (Nat.not_succ_le_self _), fun hor => absurd hor hnot⟩
  · exact absurd hle (Nat.not_le_of_lt hlt)
  · have hsame : State.SameCaches (updated.play between).state t.state := ⟨rfl, rfl, rfl, rfl, rfl⟩
    have hover' : t.state.outcome? e.load = some (.ok records) := by
      rw [hsame.outcome?]
      exact (Cloud.kept_outcome _ _).play between hover
    refine ⟨records, hlisted, ?_⟩
    rw [hread, State.listing_of_fresh hfresh, hover']
    rfl

/-- A session with a cloud that keeps listings for a number of seconds. -/
def keeping (seconds : Option Float) : Session :=
  .start ⟨"https://magnum.test/v1", "token", "latest", 5000⟩ false .null seconds 0

/-- The update of the only cluster by its name, and what it is confirmed with. -/
def scaleWeb : Step :=
  .command (.cloud (.update .cluster (.name "web") [("node_count", .num 3)]))
    (Cloud.serving [Cloud.web]).replies

/-- The only cluster as it is then. -/
def scaledWeb : Json := .obj [("uuid", .str "c-1"), ("name", .str "web"), ("node_count", .num 3)]

/-- The update of the only cluster finds it. -/
theorem run_scaleWeb (seconds : Option Float) :
    Cloud.run ((Cloud.Operation.update .cluster (.name "web") [("node_count", .num 3)]).call .null)
        ((keeping seconds).fresh (Cloud.serving [Cloud.web]).replies).state =
      Cloud.run ((Change.update [("node_count", .num 3)]).after .cluster "web" (.ok Cloud.web))
        ((Change.update [("node_count", .num 3)]).listing .cluster
          ((keeping seconds).fresh (Cloud.serving [Cloud.web]).replies).state).2 := by
  have hfound : Cloud.lookUp .cluster "web" .all (.ok [Cloud.web]) = .ok Cloud.web := rfl
  have h := Change.run_eq .cluster "web"
    ((keeping seconds).fresh (Cloud.serving [Cloud.web]).replies).state
    (.update [("node_count", .num 3)]) .null
  rwa [show ((Change.update _).listing .cluster _).1 = .ok [Cloud.web] from rfl, hfound] at h

/-- An hour after an update, a listing that is kept for a minute is read anew. -/
theorem read_after_update_expired :
    (((keeping (some 60)).fresh (Cloud.serving [Cloud.web]).replies).perform
      (.cloud (.update .cluster (.name "web") [("node_count", .num 3)]))).1 =
        .ok (some scaledWeb) ∧
    ((keeping (some 60)).step scaleWeb).state.flights.length ≤
      ((((keeping (some 60)).step scaleWeb).play [.advance 3600000]).fresh
        []).state.offered .cluster := by
  have hok : (((keeping (some 60)).fresh (Cloud.serving [Cloud.web]).replies).perform
      (.cloud (.update .cluster (.name "web") [("node_count", .num 3)]))).1 =
        .ok (some scaledWeb) :=
    congrArg Prod.fst (run_scaleWeb (some 60))
  obtain ⟨hiff, -, -⟩ := read_after_update_iff (keeping (some 60)) .cluster "web"
    [("node_count", .num 3)] _ hok [.advance 3600000] [] .list
  exact ⟨hok, hiff.mpr (.inr (by decide))⟩

/-- Right after an update that was confirmed, the clusters are listed as they were
before it, and nothing is sent. -/
theorem list_after_update_stale :
    (((keeping none).fresh (Cloud.serving [Cloud.web]).replies).perform
      (.cloud (.update .cluster (.name "web") [("node_count", .num 3)]))).1 =
        .ok (some scaledWeb) ∧
    ((keeping none).step scaleWeb).state.sent.map (·.method) = [.get, .patch] ∧
    ((keeping none).step scaleWeb).state.offered .cluster <
      ((keeping none).step scaleWeb).state.flights.length ∧
    (((keeping none).step scaleWeb).fresh []).perform (.cloud (.list .cluster)) =
      (.ok (some (.arr [Cloud.web])), ((keeping none).step scaleWeb).fresh []) := by
  have hrun := run_scaleWeb none
  have hstate : ((keeping none).step scaleWeb).state =
      (Cloud.run ((Change.update [("node_count", .num 3)]).after .cluster "web" (.ok Cloud.web))
        ((Change.update [("node_count", .num 3)]).listing .cluster
          ((keeping none).fresh (Cloud.serving [Cloud.web]).replies).state).2).2 :=
    congrArg Prod.snd hrun
  have hfresh : ((keeping none).step scaleWeb).state.fresh? .cluster = some 0 := by
    rw [hstate]
    rfl
  refine ⟨congrArg Prod.fst hrun, ?_, ?_, ?_⟩
  · rw [hstate]
    rfl
  · unfold State.offered
    rw [hfresh, hstate]
    decide
  · have hread := perform_read .cluster .list (((keeping none).step scaleWeb).fresh [])
    have hover : (((keeping none).step scaleWeb).fresh []).state.outcome? 0 =
        some (.ok [Cloud.web]) := by
      show ((keeping none).step scaleWeb).state.outcome? 0 = _
      rw [hstate]
      rfl
    rw [State.listing_of_fresh (s := (((keeping none).step scaleWeb).fresh []).state) hfresh,
      hover] at hread
    exact hread

end Session

end MagnumClient
