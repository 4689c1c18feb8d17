/-
MagnumClient.Proofs.Listing — what a call that asks for a listing is given.

Flights are numbered in the order in which they begin, and requests of a flight
are sent after it has begun. So the number of a flight dates it: a call that is
given flight `n` is given nothing older than flight `n`, and `offered` is the
number that a call which asks now is given. A cache offers a flight only as long
as it holds one that has not expired; otherwise the call begins a flight, whose
number is that of all flights so far.

Two facts of a state say what a cache has forgotten:

* `Holds kind e s` — the cache holds the entry `e`.
* `Since kind n s` — the cache holds nothing older than flight `n`. Every move
  keeps it, because an entry is stored for a flight that has just begun, and
  failures only clear.
-/
import MagnumClient.Proofs.Exchange

namespace MagnumClient.Cloud.State

/-! ## 1. Changing a cache -/

section modifyMemo

variable (kind other : Kind) (f : Cache.Memo → Cache.Memo) (s : State)

@[simp] theorem memo_modifyMemo_self : (s.modifyMemo kind f).memo kind = f (s.memo kind) := by
  cases kind <;> rfl

theorem memo_modifyMemo_of_ne {kind other : Kind} (h : kind ≠ other) :
    (s.modifyMemo kind f).memo other = s.memo other := by
  cases kind <;> cases other <;> first | rfl | exact absurd rfl h

@[simp] theorem client_modifyMemo : (s.modifyMemo kind f).client = s.client := by
  cases kind <;> rfl

@[simp] theorem flights_modifyMemo : (s.modifyMemo kind f).flights = s.flights := by
  cases kind <;> rfl

@[simp] theorem clock_modifyMemo : (s.modifyMemo kind f).clock = s.clock := by
  cases kind <;> rfl

@[simp] theorem limit_modifyMemo : (s.modifyMemo kind f).limit = s.limit := by
  cases kind <;> rfl

@[simp] theorem sent_modifyMemo : (s.modifyMemo kind f).sent = s.sent := by
  cases kind <;> rfl

end modifyMemo

/-- A cache that has been told to forget offers nothing. -/
@[simp] theorem fresh?_forget (kind : Kind) (s : State) :
    (s.modifyMemo kind .invalidate).fresh? kind = none := by
  simp [fresh?]

/-! ## 2. Beginning and ending a flight -/

/-- The flight that a call which asks for the listing of a kind is given. -/
def offered (kind : Kind) (s : State) : Nat := (s.fresh? kind).getD s.flights.length

section

variable (kind : Kind) (s : State)

@[simp] theorem fst_begin : (s.begin kind).1 = s.flights.length := by
  simp [begin, takeOff]

theorem flights_begin :
    (s.begin kind).2.flights =
      s.flights ++ [⟨kind, some ((s.memo kind).generation + 1), none⟩] := by
  simp [begin, takeOff, memo]
  cases kind <;> rfl

theorem memo_begin_self :
    (s.begin kind).2.memo kind =
      ⟨(s.memo kind).generation + 1, some ⟨s.flights.length, s.clock⟩⟩ := by
  cases kind <;> rfl

theorem memo_begin_of_ne {kind other : Kind} (h : kind ≠ other) :
    (s.begin kind).2.memo other = s.memo other := by
  cases kind <;> cases other <;> first | rfl | exact absurd rfl h

end

/-- Ending a flight says what it came to, and may clear a cache. -/
theorem land_eq (flight : Nat) (o : Except Failure (List Json)) (s : State) :
    ∃ kind f, (f = id ∨ ∃ generation, f = Cache.Memo.fail generation) ∧
      s.land flight o =
        { s with
          flights := s.flights.modify flight fun x => { x with outcome := some o } }.modifyMemo
            kind f := by
  have same : ∀ t : State, t = t.modifyMemo .cluster id := fun _ => rfl
  unfold land
  cases hf : s.flights[flight]? with
  | none =>
    rw [List.modify_eq_self (List.getElem?_eq_none_iff.mp hf)]
    exact ⟨.cluster, id, .inl rfl, same s⟩
  | some x =>
    have hset : s.flights.set flight { x with outcome := some o } =
        s.flights.modify flight fun x => { x with outcome := some o } := by
      apply List.ext_getElem?
      intro j
      rw [List.getElem?_set, List.getElem?_modify]
      by_cases hj : flight = j
      · subst hj
        have hlt : flight < s.flights.length := (List.getElem?_eq_some_iff.mp hf).1
        rw [if_pos rfl, if_pos hlt, hf]
        simp
      · simp [hj]
    simp only [hset]
    cases o with
    | ok items => exact ⟨.cluster, id, .inl rfl, same _⟩
    | error e =>
      cases hg : x.generation with
      | none => exact ⟨.cluster, id, .inl rfl, same _⟩
      | some generation => exact ⟨x.kind, .fail generation, .inr ⟨generation, rfl⟩, rfl⟩

section land

variable (flight : Nat) (o : Except Failure (List Json)) (s : State)

@[simp] theorem client_land : (s.land flight o).client = s.client := by
  obtain ⟨kind, f, -, h⟩ := land_eq flight o s
  rw [h, client_modifyMemo]

@[simp] theorem sent_land : (s.land flight o).sent = s.sent := by
  obtain ⟨kind, f, -, h⟩ := land_eq flight o s
  rw [h, sent_modifyMemo]

@[simp] theorem clock_land : (s.land flight o).clock = s.clock := by
  obtain ⟨kind, f, -, h⟩ := land_eq flight o s
  rw [h, clock_modifyMemo]

@[simp] theorem limit_land : (s.land flight o).limit = s.limit := by
  obtain ⟨kind, f, -, h⟩ := land_eq flight o s
  rw [h, limit_modifyMemo]

theorem flights_land :
    (s.land flight o).flights =
      s.flights.modify flight fun x => { x with outcome := some o } := by
  obtain ⟨kind, f, -, h⟩ := land_eq flight o s
  rw [h, flights_modifyMemo]

/-- Ending a flight leaves a cache as it is, or clears it. -/
theorem entry_land (kind : Kind) :
    ((s.land flight o).memo kind).entry = (s.memo kind).entry ∨
      ((s.land flight o).memo kind).entry = none := by
  obtain ⟨other, f, hf, h⟩ := land_eq flight o s
  rw [h]
  by_cases hk : other = kind
  · subst hk
    rw [memo_modifyMemo_self]
    rcases hf with rfl | ⟨generation, rfl⟩
    · exact .inl (by cases other <;> rfl)
    · unfold Cache.Memo.fail
      split
      · exact .inr rfl
      · exact .inl (by cases other <;> rfl)
  · rw [memo_modifyMemo_of_ne _ _ hk]
    exact .inl (by cases kind <;> rfl)

/-- The failure of a flight of the cache's own generation clears it. -/
theorem entry_land_own {flight generation : Nat} {o : Except Failure (List Json)} {kind : Kind}
    {e : Cache.Entry} {s : State}
    (h : s.flights[flight]? = some ⟨kind, some generation, none⟩)
    (hm : s.memo kind = ⟨generation, some e⟩) :
    ((s.land flight o).memo kind).entry = o.toOption.map fun _ => e := by
  unfold land
  rw [h]
  cases o with
  | ok items =>
    show (s.memo kind).entry = some e
    rw [hm]
  | error f =>
    show ((modifyMemo kind (.fail generation) { s with flights := _ }).memo kind).entry = none
    rw [memo_modifyMemo_self]
    show ((s.memo kind).fail generation).entry = none
    rw [hm]
    simp [Cache.Memo.fail]

/-- The end of a flight is no business of the other cache. -/
theorem memo_land_of_ne {flight : Nat} {o : Except Failure (List Json)} {kind other : Kind}
    {generation : Option Nat} {done : Option (Except Failure (List Json))} {s : State}
    (h : s.flights[flight]? = some ⟨kind, generation, done⟩) (hk : kind ≠ other) :
    (s.land flight o).memo other = s.memo other := by
  unfold land
  rw [h]
  cases o with
  | ok items => rfl
  | error f =>
    cases generation with
    | none => rfl
    | some g => exact memo_modifyMemo_of_ne _ _ hk

end land

/-! ## 3. What a cache holds -/

/-- The cache of a kind holds an entry. -/
def Holds (kind : Kind) (e : Cache.Entry) (s : State) : Prop := (s.memo kind).entry = some e

/-- The cache of a kind holds nothing that is older than flight `n`. -/
structure Since (kind : Kind) (n : Nat) (s : State) : Prop where
  count : n ≤ s.flights.length
  entry : ∀ e, s.Holds kind e → n ≤ e.load

theorem Holds.of_memo {kind : Kind} {e : Cache.Entry} {s s' : State} (h : s.Holds kind e)
    (hm : s'.memo kind = s.memo kind) : s'.Holds kind e := by
  unfold Holds
  rw [hm]
  exact h

theorem Holds.congr {kind : Kind} {e : Cache.Entry} {s s' : State} (h : s.Holds kind e)
    (hs : SameCaches s s') : s'.Holds kind e := h.of_memo (hs.memo kind)

/-- What a cache offers is what it holds, unless that has expired. -/
theorem fresh?_of_holds {kind : Kind} {e : Cache.Entry} {s : State} (h : s.Holds kind e) :
    s.fresh? kind = if Cache.Memo.expired s.limit s.clock e then none else some e.load := by
  unfold fresh? Cache.Memo.fresh?
  rw [show (s.memo kind).entry = some e from h]

theorem holds_of_fresh? {kind : Kind} {flight : Nat} {s : State}
    (h : s.fresh? kind = some flight) :
    ∃ e, s.Holds kind e ∧ e.load = flight ∧ Cache.Memo.expired s.limit s.clock e = false := by
  unfold fresh? Cache.Memo.fresh? at h
  cases he : (s.memo kind).entry with
  | none => simp [he] at h
  | some e =>
    simp only [he] at h
    cases hx : Cache.Memo.expired s.limit s.clock e with
    | true => simp [hx] at h
    | false =>
      simp only [hx, Bool.false_eq_true, if_false, Option.some.injEq] at h
      exact ⟨e, he, h, hx⟩

namespace Since

variable {kind : Kind} {n : Nat} {s s' : State}

/-- A call that asks now is given nothing older. -/
theorem offered (h : Since kind n s) : n ≤ s.offered kind := by
  unfold State.offered
  cases hf : s.fresh? kind with
  | none => exact h.count
  | some flight =>
    obtain ⟨e, he, rfl, -⟩ := holds_of_fresh? hf
    exact h.entry e he

theorem mono (h : Since kind n s) {m : Nat} (hm : m ≤ n) : Since kind m s :=
  ⟨Nat.le_trans hm h.count, fun e he => Nat.le_trans hm (h.entry e he)⟩

/-- A cache that forgets holds nothing. -/
theorem of_forget (kind : Kind) (s : State) :
    Since kind s.flights.length (s.modifyMemo kind .invalidate) where
  count := by simp
  entry e he := by
    rw [Holds, memo_modifyMemo_self] at he
    cases he

theorem congr (h : Since kind n s) (hs : SameCaches s s') : Since kind n s' where
  count := by rw [hs.flights]; exact h.count
  entry e he := h.entry e (by rw [Holds, ← hs.memo]; exact he)

theorem forget (h : Since kind n s) (other : Kind) :
    Since kind n (s.modifyMemo other .invalidate) where
  count := by simpa using h.count
  entry e he := by
    by_cases hk : other = kind
    · subst hk
      rw [Holds, memo_modifyMemo_self] at he
      cases he
    · rw [Holds, memo_modifyMemo_of_ne _ _ hk] at he
      exact h.entry e he

/-- What is stored for a flight that begins is the newest of all. -/
theorem begun (h : Since kind n s) (other : Kind) : Since kind n (s.begin other).2 where
  count := by
    rw [flights_begin, List.length_append]
    exact Nat.le_trans h.count (Nat.le_add_right _ _)
  entry e he := by
    by_cases hk : other = kind
    · subst hk
      rw [Holds, memo_begin_self] at he
      obtain rfl : _ = e := Option.some.inj he
      exact h.count
    · rw [Holds, memo_begin_of_ne _ hk] at he
      exact h.entry e he

theorem takeOff (h : Since kind n s) (other : Kind) (generation : Option Nat) :
    Since kind n (s.takeOff other generation).2 where
  count := by
    simp only [State.takeOff, List.length_append]
    exact Nat.le_trans h.count (Nat.le_add_right _ _)
  entry e he := h.entry e (by cases kind <;> exact he)

theorem land (h : Since kind n s) (flight : Nat) (o : Except Failure (List Json)) :
    Since kind n (s.land flight o) where
  count := by rw [flights_land, List.length_modify]; exact h.count
  entry e he := by
    rcases entry_land flight o s kind with hl | hl
    · exact h.entry e (hl.symm.trans he)
    · rw [Holds, hl] at he
      cases he

end Since

/-! ## 4. Getting a listing -/

/-- A listing that is offered is given, and nothing else happens. -/
theorem listing_of_fresh {kind : Kind} {flight : Nat} {s : State}
    (h : s.fresh? kind = some flight) :
    s.listing kind = ((s.outcome? flight).getD (.error .nothing), s) := by
  unfold listing
  rw [h]

/-- What a call leaves behind that began a flight and read it to its end: the
flight is over, and the cache holds it unless it failed. -/
structure Renewed (kind : Kind) (s s' : State) (o : Except Failure (List Json)) : Prop where
  count : s'.flights.length = s.flights.length + 1
  outcome : s'.outcome? s.flights.length = some o
  entry : (s'.memo kind).entry = o.toOption.map fun _ => ⟨s.flights.length, s.clock⟩
  others : ∀ other, kind ≠ other → s'.memo other = s.memo other
  clock : s'.clock = s.clock
  limit : s'.limit = s.limit

theorem listing_eq {kind : Kind} {s : State} (h : s.fresh? kind = none) :
    s.listing kind =
      (((s.begin kind).2.collect kind).1,
        ((s.begin kind).2.collect kind).2.land s.flights.length
          ((s.begin kind).2.collect kind).1) := by
  rw [← fst_begin kind s]
  unfold listing
  rw [h]

/-- Where none is offered, the listing is read anew. -/
theorem listing_of_stale {kind : Kind} {s : State} (h : s.fresh? kind = none) :
    Renewed kind s (s.listing kind).2 (s.listing kind).1 := by
  obtain ⟨gets, hf, -⟩ := collect_frame kind (s.begin kind).2
  rw [listing_eq h]
  generalize hr : (s.begin kind).2.collect kind = r at hf
  obtain ⟨o, t⟩ := r
  have hflights : t.flights = _ := hf.caches.flights.trans (flights_begin kind s)
  have hlanded : t.flights[s.flights.length]? =
      some ⟨kind, some ((s.memo kind).generation + 1), none⟩ := by
    rw [hflights]
    simp
  refine ⟨?_, ?_, ?_, ?_, ?_, ?_⟩
  · simp [flights_land, hflights]
  · simp [outcome?, flights_land, hlanded]
  · rw [entry_land_own hlanded ((hf.caches.memo kind).trans (memo_begin_self kind s))]
  · intro other hk
    rw [memo_land_of_ne hlanded hk]
    exact (hf.caches.memo other).trans (memo_begin_of_ne s hk)
  · rw [clock_land]
    exact hf.caches.clock.trans (by simp [begin, takeOff])
  · rw [limit_land]
    exact hf.caches.limit.trans (by simp [begin, takeOff])

/-- Reading a listing anew leaves the flights alone that are over. -/
theorem outcome?_listing_of_stale {kind : Kind} {s : State} (h : s.fresh? kind = none)
    {flight : Nat} {o : Except Failure (List Json)} (ho : s.outcome? flight = some o) :
    (s.listing kind).2.outcome? flight = some o := by
  obtain ⟨gets, hf, -⟩ := collect_frame kind (s.begin kind).2
  have hlt : flight < s.flights.length := by
    obtain ⟨x, hx, -⟩ := Option.bind_eq_some_iff.mp ho
    exact (List.getElem?_eq_some_iff.mp hx).1
  have hne : s.flights.length ≠ flight := Nat.ne_of_gt hlt
  rw [listing_eq h]
  unfold outcome?
  rw [flights_land, List.getElem?_modify_ne _ _ hne, hf.caches.flights, flights_begin,
    List.getElem?_append_left hlt]
  exact ho

/-- What a call is given is what the flight came to that it is offered. -/
theorem fst_listing (kind : Kind) (s : State) :
    (s.listing kind).1 =
      ((s.listing kind).2.outcome? (s.offered kind)).getD (.error .nothing) := by
  unfold offered
  cases hf : s.fresh? kind with
  | some flight =>
    rw [listing_of_fresh hf]
    rfl
  | none =>
    rw [Option.getD_none, (listing_of_stale hf).outcome]
    rfl

/-- Getting a listing sends nothing but GET requests. -/
theorem listing_frame (kind : Kind) (s : State) :
    ∃ gets, (s.listing kind).2.sent = s.sent ++ gets ∧ (∀ r ∈ gets, r.method = .get) ∧
      (s.listing kind).2.client.face = s.client.face := by
  unfold listing
  cases s.fresh? kind with
  | some flight => exact ⟨[], (List.append_nil _).symm, by simp, rfl⟩
  | none =>
    obtain ⟨gets, hf, hm⟩ := collect_frame kind (s.begin kind).2
    refine ⟨gets, ?_, hm, ?_⟩
    · simp only [sent_land]
      rw [hf.sent]
      simp [begin, takeOff]
    · simp only [client_land]
      rw [hf.face]
      simp [begin, takeOff]

/-- The listing of one kind is no business of the other cache. -/
theorem memo_listing_of_ne {kind other : Kind} (s : State) (hk : other ≠ kind) :
    (s.listing other).2.memo kind = s.memo kind := by
  cases hf : s.fresh? other with
  | some flight => rw [listing_of_fresh hf]
  | none => exact (listing_of_stale hf).others kind hk

theorem Since.listing {kind other : Kind} {n : Nat} {s : State} (h : Since kind n s) :
    Since kind n (s.listing other).2 := by
  unfold State.listing
  cases s.fresh? other with
  | some flight => exact h
  | none =>
    obtain ⟨gets, hf, -⟩ := collect_frame other (s.begin other).2
    exact ((h.begun other).congr hf.caches).land ..

end MagnumClient.Cloud.State
