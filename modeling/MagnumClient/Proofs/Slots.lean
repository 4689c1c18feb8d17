/-
MagnumClient.Proofs.Slots — sessions with a cloud as a machine with two slots.

The machine has a slot for each kind, which is empty or holds a listing and the time at
which reading it began. It knows nothing of flights, generations or requests. Of a call
it is told the command, the time, what reading each collection would come to, and
whether a request for a change is answered without failure (`Turn`). From that it says
whether the call fetches a listing (`Slots.fetches`), which listing the call is given
(`Slots.given`), and what it leaves in the slots (`Slots.after`).

`Shows` ties a cache to a slot. One step keeps it (`shows_perform`), by the way in which a
command handles its cache: it may forget, it may ask, and it may forget again when it has
changed something (`entry_perform`). `Simulates.play` is the run, and
`session_refines_slots` says what can be seen of it from outside: requests and answers.

The clock has to show numbers, and finite ones. Otherwise an entry is neither older nor
younger than the limit.
-/
import MagnumClient.Proofs.Numbers
import MagnumClient.Proofs.Traffic

namespace MagnumClient

open Cloud (State)
open ContainerInfra

/-! ## 1. The machine -/

/-- A slot that is full: a listing, and when reading it began. -/
structure Slot where
  items : List Json
  since : Float

/-- A slot for each kind, which can be empty. -/
abbrev Slots := Kind → Option Slot

/-- What the machine is told of a call: the command, the time, what reading each
collection would come to, and whether a request of a method is answered without
failure. -/
structure Turn where
  command : Command
  now : Float
  read : Kind → Except Failure (List Json)
  confirmed : Method → Bool

/-- Whether a slot that is full is used: for good without an expiration in seconds, or
if that is zero or no number, and otherwise as long as it has not expired. -/
def Slot.serves (expiration : Option Float) (now : Float) (x : Slot) : Bool :=
  match expiration with
  | none => true
  | some seconds => seconds == 0 || seconds.isNaN || now - x.since < seconds * 1000

/-- The method of the request by which a command creates or deletes a resource of a
kind. -/
def Command.changes? (kind : Kind) : Command → Option Method
  | .cloud (.createCluster ..) => if kind = .cluster then some .post else none
  | .cloud (.createTemplate ..) => if kind = .template then some .post else none
  | .cloud (.delete other _) => if kind = other then some .delete else none
  | _ => none

namespace Slots

/-- A machine that has not been used. -/
def empty : Slots := fun _ => none

variable (expiration : Option Float) (turn : Turn) (slots : Slots)

/-- What a call finds in a slot: an update empties it first. -/
def found (kind : Kind) : Option Slot := if turn.command.updates kind then none else slots kind

/-- The slot that a call is answered from, if it is full and has not expired. -/
def used (kind : Kind) : Option Slot :=
  (slots.found turn kind).filter (Slot.serves expiration turn.now)

/-- Whether a call fetches the listing of a kind. -/
def fetches (kind : Kind) : Bool :=
  turn.command.asks kind && (slots.used expiration turn kind).isNone

/-- The listing that a call is given which asks for one. -/
def given (kind : Kind) : Except Failure (List Json) :=
  match slots.used expiration turn kind with
  | some x => .ok x.items
  | none => turn.read kind

/-- What a call leaves in a slot: nothing if it has created or deleted a resource of the
kind; otherwise what it has fetched, if it has and that did not fail, or what it found
there. -/
def after : Slots := fun kind =>
  if (turn.command.changes? kind).any turn.confirmed then none
  else if slots.fetches expiration turn kind then
    (turn.read kind).toOption.map fun items => ⟨items, turn.now⟩
  else slots.found turn kind

end Slots

/-! ## 2. Turns of a session -/

namespace Cloud

/-- Whether a request of a method that a call makes itself is answered without failure,
when the call is done. -/
def confirms (m : Method) : Call → State → Bool
  | .done _, _ => false
  | .exchange ask next, s =>
    (ask.method == m && (s.exchange ask).1.isOk) ||
      confirms m (next (s.exchange ask).1) (s.exchange ask).2
  | .collect kind next, s => confirms m (next (s.collect kind).1) (s.collect kind).2
  | .listing kind next, s => confirms m (next (s.listing kind).1) (s.listing kind).2
  | .forget kind next, s => confirms m next (s.modifyMemo kind .invalidate)
  | .note message next, s => confirms m next (s.note message)

/-- Creating a resource succeeds exactly if the request for it does. -/
theorem confirms_create (kind : Kind) (attributes : Fields) (s : State) :
    confirms .post (create kind attributes) s = (run (create kind attributes) s).1.isOk := by
  unfold create ContainerInfra.create
  rw [confirms, run]
  generalize State.exchange _ s = r
  obtain ⟨o, t⟩ := r
  cases kind <;> cases o <;> rfl

/-- Deleting a resource comes to `true` exactly if a request for it is sent and
succeeds. -/
theorem confirms_after_delete (kind : Kind) (text : String) (found : Except Failure Json)
    (s : State) :
    confirms .delete (Change.delete.after kind text found) s = true ↔
      (run (Change.delete.after kind text found) s).1 = .ok (some (.bool true)) := by
  cases found with
  | error f => simp [Change.after, Call.andThen, Call.fail, confirms, run]
  | ok e =>
    cases he : e.isTruthy with
    | false => simp [Change.after, Call.andThen, he, Call.value, confirms, run]
    | true =>
      simp only [Change.after, Call.andThen, he, if_true, ContainerInfra.delete]
      cases Update.address e with
      | error f => simp [Call.fail, confirms, run]
      | ok id =>
        rw [confirms, run]
        generalize State.exchange _ s = r
        obtain ⟨o, t⟩ := r
        cases o with
        | error f => simp [ask, Except.isOk, Except.toBool, Except.map, Call.fail, confirms, run]
        | ok v => simp [ask, Except.isOk, Except.toBool, Except.map, Call.value, confirms, run]

theorem confirms_delete (kind : Kind) (target : Target) (s : State) :
    confirms .delete (delete kind target) s = true ↔
      (run (delete kind target) s).1 = .ok (some (.bool true)) := by
  cases target with
  | entity v => exact confirms_after_delete kind v.plainText (.ok v) s
  | name text => exact confirms_after_delete kind text (lookUp kind text .all _) _

theorem changed_create {place : Json} {kind other : Kind} {op : Operation} {attributes : Fields}
    (hcall : op.call place = create other attributes)
    (hchanged : ∀ o, op.changed kind o = (kind == other && o.isOk))
    (hmethod : (Command.cloud op).changes? kind = if kind = other then some .post else none)
    (s : State) :
    op.changed kind (run (op.call place) s).1 =
      ((Command.cloud op).changes? kind).any fun m => confirms m (op.call place) s := by
  rw [hchanged, hmethod, hcall, ← confirms_create]
  by_cases hk : kind = other <;> simp [hk]

/-- An operation says that it has created or deleted a resource of a kind exactly if the
request by which it does is answered without failure. -/
theorem changed_eq (place : Json) (kind : Kind) (op : Operation) (s : State) :
    op.changed kind (run (op.call place) s).1 =
      ((Command.cloud op).changes? kind).any fun m => confirms m (op.call place) s := by
  cases op with
  | createCluster name templateId extra =>
    exact changed_create rfl (fun o => by cases kind <;> cases o <;> rfl) rfl s
  | createTemplate name options =>
    exact changed_create rfl (fun o => by cases kind <;> cases o <;> rfl) rfl s
  | delete other target =>
    have h := confirms_delete other target s
    have hchanged : ∀ o : Outcome, Operation.changed kind (.delete other target) o = true ↔
        kind = other ∧ o = .ok (some (.bool true)) := by
      intro o
      rcases o with f | _ | (_ | (_ | _) | _ | _ | _ | _)
      case ok.some.bool.true =>
        show (other == kind) = true ↔ _
        rw [beq_iff_eq]
        exact ⟨fun h => ⟨h.symm, rfl⟩, fun h => h.1.symm⟩
      all_goals exact ⟨fun h => absurd h Bool.false_ne_true, fun h => (by cases h.2)⟩
    rw [Bool.eq_iff_iff, hchanged]
    show kind = other ∧ (run (delete other target) s).1 = _ ↔ _
    rw [← h]
    by_cases hk : kind = other <;> simp [Command.changes?, Operation.call, hk]
  | _ => rfl

end Cloud

namespace Session

/-- What a session tells the machine of a command. -/
def turn (c : Command) (s : Session) : Turn where
  command := c
  now := s.state.clock
  read kind := (s.state.collect kind).1
  confirmed m := (s.call? c).any fun call => Cloud.confirms m call s.state

@[simp] theorem command_turn (c : Command) (s : Session) : (s.turn c).command = c := rfl

/-- The slots of the machine after some steps of a session. -/
def slotsAfter (expiration : Option Float) : Session → Slots → List Step → Slots
  | _, slots, [] => slots
  | s, slots, .advance ms :: xs => slotsAfter expiration (s.step (.advance ms)) slots xs
  | s, slots, .command c replies :: xs =>
    slotsAfter expiration (s.step (.command c replies))
      (slots.after expiration ((s.fresh replies).turn c)) xs

/-- A command says that it has created or deleted something exactly if the request by
which it does is answered without failure. -/
theorem changed_perform (kind : Kind) (c : Command) (s : Session) :
    c.changed kind (s.perform c).1 = (c.changes? kind).any (s.turn c).confirmed := by
  cases c with
  | cloud op =>
    have hcall : s.call? (.cloud op) = some (op.call s.place) := rfl
    rw [perform_of_call hcall]
    exact Cloud.changed_eq s.place kind op s.state
  | _ => rfl

end Session

/-! ## 3. Slots and caches -/

namespace Cloud.State

/-- A cache holds what is in a slot. -/
def Shows (kind : Kind) (s : State) : Option Slot → Prop
  | none => (s.memo kind).entry = none
  | some x => x.since.isFinite = true ∧
      ∃ flight, s.Holds kind ⟨flight, x.since⟩ ∧ s.outcome? flight = some (.ok x.items)

theorem expired_eq {expiration : Option Float} {now : Float} {x : Slot} (flight : Nat)
    (hnow : now.isFinite = true) (hsince : x.since.isFinite = true) :
    Cache.Memo.expired (limitOf expiration) now ⟨flight, x.since⟩ = !x.serves expiration now := by
  cases expiration with
  | none => rfl
  | some seconds =>
    unfold limitOf Slot.serves
    cases hzero : seconds == 0 with
    | true =>
      simp only [hzero, Bool.true_or, if_true]
      rfl
    | false =>
      cases hnan : seconds.isNaN with
      | true =>
        simp only [hzero, hnan, Bool.or_true, Bool.true_or, if_true]
        rfl
      | false =>
        have hle := le_iff_not_lt (isNaN_sub hnow hsince) (isNaN_mul_thousand hnan)
        simp only [hzero, hnan, Bool.or_false, Bool.false_or, Bool.false_eq_true, if_false,
          Cache.Memo.expired, ge_iff_le, hle, decide_not]

/-- A cache offers the slot that is used, and nothing else. -/
theorem fresh?_of_shows {kind : Kind} {s : State} {slot : Option Slot} {expiration : Option Float}
    (h : s.Shows kind slot) (hlimit : s.limit = limitOf expiration)
    (hclock : s.clock.isFinite = true) :
    (slot.filter (Slot.serves expiration s.clock) = none ∧ s.fresh? kind = none) ∨
      ∃ x flight, slot.filter (Slot.serves expiration s.clock) = some x ∧
        s.fresh? kind = some flight ∧ s.outcome? flight = some (.ok x.items) := by
  cases slot with
  | none =>
    have hnone : (s.memo kind).entry = none := h
    refine .inl ⟨rfl, ?_⟩
    unfold fresh? Cache.Memo.fresh?
    rw [hnone]
  | some x =>
    obtain ⟨hsince, flight, hholds, hover⟩ := h
    have hfresh := fresh?_of_holds hholds
    rw [hlimit, expired_eq flight hclock hsince] at hfresh
    cases hx : x.serves expiration s.clock with
    | true =>
      rw [hx] at hfresh
      exact .inr ⟨x, flight, by simp [hx], by simpa using hfresh, hover⟩
    | false =>
      rw [hx] at hfresh
      exact .inl ⟨by simp [hx], by simpa using hfresh⟩

/-- What is no business of the caches leaves the slots as they are. -/
theorem Shows.congr {kind : Kind} {s s' : State} {slot : Option Slot} (h : s.Shows kind slot)
    (hs : SameCaches s s') : s'.Shows kind slot := by
  cases slot with
  | none =>
    show (s'.memo kind).entry = none
    rw [hs.memo]
    exact h
  | some x =>
    obtain ⟨hsince, flight, hholds, hover⟩ := h
    exact ⟨hsince, flight, hholds.congr hs, by rw [hs.outcome?]; exact hover⟩

/-- A listing that is read is kept in the slot, unless reading it failed. -/
theorem shows_listing {kind : Kind} {s : State} (h : s.fresh? kind = none)
    (hclock : s.clock.isFinite = true) :
    (s.listing kind).2.Shows kind
      ((s.listing kind).1.toOption.map fun items => ⟨items, s.clock⟩) := by
  have hrenewed := listing_of_stale h
  have hentry := hrenewed.entry
  cases ho : (s.listing kind).1 with
  | error f =>
    rw [ho] at hentry
    exact hentry
  | ok items =>
    rw [ho] at hentry
    refine ⟨hclock, s.flights.length, hentry, ?_⟩
    rw [← ho]
    exact hrenewed.outcome

end Cloud.State

namespace Session

variable {expiration : Option Float} {slots : Slots} {s : Session} {c : Command} {kind : Kind}

/-- An update empties the slot before it asks for the listing. -/
theorem shows_ready (h : s.state.Shows kind (slots kind)) :
    (c.ready kind s.state).Shows kind (slots.found (s.turn c) kind) := by
  unfold Command.ready Slots.found
  show State.Shows kind _ (if c.updates kind then none else slots kind)
  split
  · show ((s.state.modifyMemo kind .invalidate).memo kind).entry = none
    rw [State.memo_modifyMemo_self]
    rfl
  · exact h

theorem limit_ready : (c.ready kind s.state).limit = s.state.limit := by
  unfold Command.ready
  split
  · rw [State.limit_modifyMemo]
  · rfl

theorem clock_ready : (c.ready kind s.state).clock = s.state.clock := by
  unfold Command.ready
  split
  · rw [State.clock_modifyMemo]
  · rfl

/-- How a call asks: the slot is used, and the cache stays as it is; or the listing is read,
and kept unless that failed. -/
theorem listing_ready (h : s.state.Shows kind (slots kind))
    (hlimit : s.state.limit = Cloud.limitOf expiration) (hclock : s.state.clock.isFinite = true) :
    (∃ x flight, slots.used expiration (s.turn c) kind = some x ∧
      (c.ready kind s.state).fresh? kind = some flight ∧
      (c.ready kind s.state).listing kind = (.ok x.items, c.ready kind s.state)) ∨
    (slots.used expiration (s.turn c) kind = none ∧ (c.ready kind s.state).fresh? kind = none ∧
      ((c.ready kind s.state).listing kind).1 = (s.turn c).read kind ∧
      ((c.ready kind s.state).listing kind).2.Shows kind
        (((s.turn c).read kind).toOption.map fun items => ⟨items, (s.turn c).now⟩)) := by
  have hclock' : (c.ready kind s.state).clock.isFinite = true := by
    rw [clock_ready]
    exact hclock
  have hfresh := State.fresh?_of_shows (shows_ready (c := c) h) (limit_ready.trans hlimit) hclock'
  rw [clock_ready] at hfresh
  rcases hfresh with ⟨hused, hstale⟩ | ⟨x, flight, hused, hflight, hover⟩
  · have hread := (listing_of_asks hstale).1
    have hshows := State.shows_listing hstale hclock'
    rw [hread, clock_ready] at hshows
    exact .inr ⟨hused, hstale, hread, hshows⟩
  · refine .inl ⟨x, flight, hused, hflight, ?_⟩
    rw [State.listing_of_fresh hflight, hover]
    rfl

/-- The cache misses a listing exactly if the machine fetches it. -/
theorem misses_iff (h : s.state.Shows kind (slots kind))
    (hlimit : s.state.limit = Cloud.limitOf expiration) (hclock : s.state.clock.isFinite = true) :
    s.Misses kind c ↔ slots.fetches expiration (s.turn c) kind = true := by
  unfold Misses Slots.fetches
  rcases listing_ready (c := c) h hlimit hclock with
    ⟨x, flight, hused, hflight, -⟩ | ⟨hused, hstale, -⟩
  · simp [hused, hflight]
  · simp [hused, hstale]

/-- A call is given what the machine gives it. -/
theorem given_eq (h : s.state.Shows kind (slots kind))
    (hlimit : s.state.limit = Cloud.limitOf expiration) (hclock : s.state.clock.isFinite = true) :
    ((c.ready kind s.state).listing kind).1 = slots.given expiration (s.turn c) kind := by
  unfold Slots.given
  rcases listing_ready (c := c) h hlimit hclock with
    ⟨x, flight, hused, -, hlisted⟩ | ⟨hused, -, hread, -⟩
  · rw [hused, hlisted]
  · rw [hused, hread]

/-- When a call has asked, the cache holds what the machine has fetched or found. -/
theorem shows_asked (h : s.state.Shows kind (slots kind))
    (hlimit : s.state.limit = Cloud.limitOf expiration) (hclock : s.state.clock.isFinite = true) :
    (c.asked kind s.state).Shows kind
      (if slots.fetches expiration (s.turn c) kind then
        ((s.turn c).read kind).toOption.map fun items => ⟨items, (s.turn c).now⟩
      else slots.found (s.turn c) kind) := by
  have hready := shows_ready (c := c) h
  unfold Slots.fetches
  cases hasks : c.asks kind with
  | false =>
    rw [Command.asked, hasks]
    simpa [hasks] using hready
  | true =>
    rw [Command.asked_of_asks hasks]
    rcases listing_ready (c := c) h hlimit hclock with
      ⟨x, flight, hused, -, hlisted⟩ | ⟨hused, -, -, hshows⟩
    · rw [hlisted]
      simpa [hused] using hready
    · simpa [hasks, hused] using hshows

/-- A flight that is over when a command has asked is so when the command is done. -/
theorem outcome?_perform {flight : Nat} {o : Except Failure (List Json)}
    (h : (c.asked kind s.state).outcome? flight = some o) :
    (s.perform c).2.state.outcome? flight = some o := by
  cases hcall : s.call? c with
  | none =>
    obtain ⟨hu, ha, -⟩ := silent_of_none hcall kind
    rw [perform_of_none hcall, (caches_atOnce c s).outcome?]
    simpa [Command.asked, Command.ready, hu, ha] using h
  | some call =>
    obtain ⟨rest, hrun, -, hasks⟩ := exists_rest kind hcall
    rw [perform_of_call hcall, hrun]
    unfold Command.asked at h
    cases ha : c.asks kind with
    | false =>
      rw [ha, if_neg Bool.false_ne_true] at h
      exact (Cloud.kept_outcome flight o).run rest h
    | true =>
      rw [ha] at hasks h
      obtain ⟨next, rfl, -⟩ := hasks
      exact (Cloud.kept_outcome flight o).run (next _) h

/-- A command leaves in the cache what the machine leaves in the slot. -/
theorem shows_perform (h : s.state.Shows kind (slots kind))
    (hlimit : s.state.limit = Cloud.limitOf expiration) (hclock : s.state.clock.isFinite = true) :
    (s.perform c).2.state.Shows kind (slots.after expiration (s.turn c) kind) := by
  have hasked := shows_asked (c := c) h hlimit hclock
  have hentry := entry_perform kind c s
  rw [changed_perform] at hentry
  unfold Slots.after
  show State.Shows kind _ (if (c.changes? kind).any (s.turn c).confirmed then _ else _)
  split <;> rename_i hchanged
  · rw [if_pos hchanged] at hentry
    exact hentry
  · rw [if_neg hchanged] at hentry
    generalize (if slots.fetches expiration (s.turn c) kind then _ else _ : Option Slot) = slot
      at hasked ⊢
    cases slot with
    | none => exact hentry.trans hasked
    | some x =>
      obtain ⟨hsince, flight, hholds, hover⟩ := hasked
      exact ⟨hsince, flight, hentry.trans hholds, outcome?_perform hover⟩

/-! ## 4. Runs -/

/-- A session does as the machine: its caches hold what is in the slots. -/
structure Simulates (expiration : Option Float) (slots : Slots) (s : Session) : Prop where
  limit : s.state.limit = Cloud.limitOf expiration
  shows : ∀ kind, s.state.Shows kind (slots kind)

theorem kept_limit (limit : Option Float) : Cloud.Kept fun s => s.limit = limit where
  congr hc hs := by rw [hc.limit]; exact hs
  listing kind s hs := by
    cases hf : s.fresh? kind with
    | some flight => rw [State.listing_of_fresh hf]; exact hs
    | none => rw [(State.listing_of_stale hf).limit]; exact hs
  forget kind s hs := by rw [State.limit_modifyMemo]; exact hs
  clock _ _ hs := hs

theorem simulates_start (settings : Settings) (strict : Bool) (place : Json)
    (expiration : Option Float) (clock : Float) :
    Simulates expiration Slots.empty (start settings strict place expiration clock) where
  limit := rfl
  shows kind := by cases kind <;> rfl

namespace Simulates

theorem fresh (h : Simulates expiration slots s) (replies : List Prepared) :
    Simulates expiration slots (s.fresh replies) where
  limit := h.limit
  shows kind := (h.shows kind).congr ⟨rfl, rfl, rfl, rfl, rfl⟩

theorem advance (h : Simulates expiration slots s) (ms : Float) :
    Simulates expiration slots (s.step (.advance ms)) where
  limit := h.limit
  shows kind := by
    have hs := h.shows kind
    generalize slots kind = slot at hs ⊢
    cases kind <;> cases slot <;> exact hs

/-- What a command does keeps step with the machine. -/
theorem perform (h : Simulates expiration slots s) (hclock : s.state.clock.isFinite = true)
    (c : Command) : Simulates expiration (slots.after expiration (s.turn c)) (s.perform c).2 where
  limit := by
    cases hcall : s.call? c with
    | some call =>
      rw [perform_of_call hcall]
      exact (kept_limit _).run call h.limit
    | none =>
      rw [perform_of_none hcall]
      exact (kept_limit _).congr (caches_atOnce c s) h.limit
  shows kind := shows_perform (h.shows kind) h.limit hclock

/-- A session keeps step with the machine, as long as its clock can be read. -/
theorem play (steps : List Step) (h : Simulates expiration slots s)
    (hclock : ∀ n, (s.play (steps.take n)).state.clock.isFinite = true) :
    Simulates expiration (slotsAfter expiration s slots steps) (s.play steps) := by
  induction steps generalizing s slots with
  | nil => exact h
  | cons x xs ih =>
    have hrest : ∀ n, ((s.step x).play (xs.take n)).state.clock.isFinite = true :=
      fun n => hclock (n + 1)
    cases x with
    | advance ms => exact ih (h.advance ms) hrest
    | command c replies => exact ih ((h.fresh replies).perform (hclock 0) c) hrest

end Simulates

/-! ## 5. Sessions and the machine -/

/-- An operation's own requests do not begin a collection. -/
theorem ne_first_page {base : String} {r : Request} (hr : State.OwnRequest base r) (kind : Kind) :
    ¬ (r.method = .get ∧ r.url = pageUrl base kind none) := by
  rintro ⟨hmethod, hurl⟩
  obtain ⟨ask, hown, hans⟩ := hr
  obtain ⟨front, hfront⟩ := Path.exists_join_eq base
  have hsame : (Path.join [.segment base, ask.place]).toList =
      (Path.join [.segment base, .segment kind.place]).toList := by
    rw [← hans.url, hurl]
    rfl
  have hkind : ∃ rest, kind.place.toList = '/' :: 'c' :: 'l' :: rest := by
    cases kind <;> exact ⟨_, rfl⟩
  obtain ⟨rest, hkind⟩ := hkind
  rw [hfront kind.place 'c' ('l' :: rest) (by decide) hkind] at hsame
  rcases hown.reads (hans.method.symm.trans hmethod) with ⟨id, hplace⟩ | hplace
  · have hid : ("/certificates/" ++ id).toList =
        '/' :: 'c' :: ("ertificates/".toList ++ id.toList) := by
      rw [String.toList_append]
      rfl
    rw [hplace, hfront _ 'c' _ (by decide) hid, List.append_cancel_left_eq] at hsame
    simp [Path.shorten] at hsame
  · rw [hplace, hfront _ 'm' "services".toList (by decide) rfl, List.append_cancel_left_eq] at hsame
    simp [Path.shorten] at hsame

/-- A change is looked up in the listing that a command asks for. -/
theorem listing_change (kind : Kind) (text : String) (d : Cloud.Change) (s : State) :
    d.listing kind s =
      (Command.ready kind (.cloud (d.operation kind text)) s).listing kind := by
  cases d with
  | delete => rfl
  | update fields => cases kind <;> rfl

/-- A session with a cloud does as the machine with two slots. Whatever was done before,
a command sends the requests for reading a collection exactly if the machine fetches the
listing, and behind them only requests that begin no collection. What is read is the
listing that the machine gives, and deleting and updating by name turn out as they do for
that listing. Then the caches hold what the machine leaves in its slots. -/
theorem session_refines_slots (settings : Settings) (strict : Bool) (place : Json)
    (expiration : Option Float) (clock : Float) (before : List Step)
    (hbefore : ∀ x ∈ before, x.forCloud = true)
    (hclock : ∀ n, ((start settings strict place expiration clock).play
      (before.take n)).state.clock.isFinite = true)
    (c : Command) (hc : c.forCloud = true) (replies : List Prepared) {t : Session} {slots : Slots}
    (ht : ((start settings strict place expiration clock).play before).fresh replies = t)
    (hslots : slotsAfter expiration (start settings strict place expiration clock) Slots.empty
      before = slots) :
    ∃ listed own, (t.perform c).2.state.sent = listed ++ own ∧
      (∀ kind, slots.fetches expiration (t.turn c) kind = true →
        ∃ pages last,
          Reading kind settings.endpoint (t.state.replyTo .get) none listed pages last ∧
          (t.turn c).read kind = readLast kind (pages.flatMap (itemsRead kind)) last) ∧
      ((∀ kind, slots.fetches expiration (t.turn c) kind = false) → listed = []) ∧
      (∀ r ∈ own, ∀ kind, ¬ (r.method = .get ∧ r.url = pageUrl settings.endpoint kind none)) ∧
      (∀ kind (r : Cloud.Read), c = .cloud (r.operation kind) →
        (t.perform c).1 = r.answer kind (slots.given expiration (t.turn c) kind)) ∧
      (∀ kind text (d : Cloud.Change), c = .cloud (d.operation kind text) →
        ∃ reply, d.Settled kind text settings.endpoint reply
          (slots.given expiration (t.turn c) kind) (t.perform c).1 own) ∧
      (t.perform c).2.Simulates expiration (slots.after expiration (t.turn c)) := by
  have hplayed := (simulates_start settings strict place expiration clock).play before hclock
  rw [hslots] at hplayed
  have hsim : Simulates expiration slots t := ht ▸ hplayed.fresh replies
  have hnow : t.state.clock.isFinite = true := by
    have h := hclock before.length
    rw [List.take_length] at h
    rw [← ht]
    exact h
  have hbase : t.state.baseOf containerInfra = .ok settings.endpoint := by
    rw [← ht, baseOf_fresh]
    exact baseOf_play settings strict place expiration clock hbefore
  have hnone : t.state.sent = [] := by
    rw [← ht]
    rfl
  have hmisses : ∀ kind, t.Misses kind c ↔ slots.fetches expiration (t.turn c) kind = true :=
    fun kind => misses_iff (hsim.shows kind) hsim.limit hnow
  obtain ⟨listed, own, hsent, hown, hread, hquiet, hasked⟩ := exists_listed_own hc t hbase
  rw [hnone, List.nil_append] at hsent
  refine ⟨listed, own, hsent, fun kind hf => hread kind ((hmisses kind).mpr hf), fun hno => ?_,
    fun r hr kind => ne_first_page (hown r hr) kind, ?_, ?_, hsim.perform hnow c⟩
  · refine hquiet fun kind hmiss => ?_
    have hfetches := (hmisses kind).mp hmiss
    rw [hno kind] at hfetches
    cases hfetches
  · rintro kind r rfl
    have hgiven := given_eq (c := .cloud (r.operation kind)) (hsim.shows kind) hsim.limit hnow
    have hready : Command.ready kind (.cloud (r.operation kind)) t.state = t.state := by
      cases r <;> rfl
    rw [hready] at hgiven
    rw [perform_read, hgiven]
  · rintro kind text d rfl
    have hgiven := given_eq (c := .cloud (d.operation kind text)) (hsim.shows kind) hsim.limit hnow
    have hasks : Command.asks kind (.cloud (d.operation kind text)) = true := by
      cases d <;> cases kind <;> rfl
    obtain ⟨gets, added, hall, hgets, -, hset⟩ :=
      Cloud.Change.settled t.place kind text d hbase
    rw [listing_change kind text d, hgiven] at hset
    have hcall : t.call? (.cloud (d.operation kind text)) =
        some ((d.operation kind text).call t.place) := rfl
    have hlisted := hasked kind hasks
    rw [Command.asked_of_asks hasks, ← listing_change, hgets, hnone] at hlisted
    -- what is sent for the listing is the same both times, and so is the rest
    obtain rfl : gets = listed := by simpa using hlisted
    rw [perform_of_call hcall] at hsent ⊢
    rw [hall, hnone, List.nil_append, List.append_cancel_left_eq] at hsent
    subst hsent
    exact ⟨_, hset⟩

/-- The clusters are listed, and half a minute passes. -/
def listedOnce : List Step :=
  [.command (.cloud (.list .cluster)) (Cloud.serving [Cloud.web]).replies, .advance 30000]

/-- Clusters that are kept for a minute are given from the slot after half of it. -/
theorem list_from_slot :
    (∀ x ∈ listedOnce, Step.forCloud x = true) ∧
    (∀ n, ((keeping (some 60)).play (listedOnce.take n)).state.clock.isFinite = true) ∧
    (((((keeping (some 60)).play listedOnce).fresh []).perform (.cloud (.list .cluster))).1 =
        .ok (some (.arr [Cloud.web]))) := by
  have hcloud : ∀ x ∈ listedOnce, Step.forCloud x = true := by decide
  have hclock : ∀ n,
      ((keeping (some 60)).play (listedOnce.take n)).state.clock.isFinite = true := by
    intro n
    rcases n with _ | _ | n
    · rfl
    · rfl
    · rw [List.take_of_length_le (by simp [listedOnce])]
      rfl
  refine ⟨hcloud, hclock, ?_⟩
  obtain ⟨listed, own, -, -, -, -, hread, -, -⟩ :=
    session_refines_slots ⟨"https://magnum.test/v1", "token", "latest", 5000⟩ false .null (some 60)
      0 listedOnce hcloud hclock (.cloud (.list .cluster)) rfl [] rfl rfl
  refine (hread .cluster .list rfl).trans ?_
  rfl

end Session

end MagnumClient
