/-
MagnumClient.Proofs.Chronicle — what a memoizing cache gives, told from all that
has happened to it.

A cache remembers one entry and a number. A `Chronicle` remembers every deed since
the beginning and neither entries nor generations, and says from the whole of it
what a get is given: the latest load that has begun since the cache was last told
to forget, unless that load has failed or has been held for as long as loads may
be (`Past.current?`); in these cases a new load begins. What has come of a load is
read off the deeds too, so a load that was handed out is the one whose success or
failure the caller gets.

`Loader.Agrees` ties a cache to its chronicle. Two of its facts carry the proof:
the entry stands for the latest load, unless that has failed (`entry`), and the
latest load is the only one of the cache's own generation (`own`). So the failure
of any other load finds a newer generation and clears nothing.

All of this is about loads that wait, succeed at once or fail at once. A load that
throws while it is called, or calls back into the cache, is not told this way.
-/
import MagnumClient.Cache.Loader

namespace MagnumClient.Cache

/-! ## 1. What has happened -/

/-- Something that has happened to a cache or to one of its loads. -/
inductive Deed where
  /-- A load began, at a time. -/
  | began (since : Float)
  /-- A get was given a load. -/
  | gave (load : Nat)
  /-- The cache was told to forget. -/
  | forgot
  /-- A load succeeded. -/
  | succeeded (load : Nat) (v : Json)
  /-- A load failed. -/
  | failed (load : Nat) (message : String)

/-- All that has happened, the newest first. -/
abbrev Past := List Deed

namespace Status

/-- Whether a load has still to settle. -/
def isPending : Status → Bool
  | pending => true
  | _ => false

/-- Whether a load has failed. -/
def isFailed : Status → Bool
  | failed _ => true
  | _ => false

end Status

namespace Past

/-- How many loads have begun. They are numbered in the order in which they begin. -/
def begun : Past → Nat
  | [] => 0
  | .began _ :: past => begun past + 1
  | _ :: past => begun past

/-- The latest load that has begun since the cache was last told to forget, and
when it began. -/
def latest? : Past → Option (Nat × Float)
  | [] => none
  | .began since :: past => some (begun past, since)
  | .forgot :: _ => none
  | _ :: past => latest? past

/-- How far a load is. -/
def status (load : Nat) : Past → Status
  | [] => .pending
  | .succeeded k v :: past => if k = load then .value v else status load past
  | .failed k message :: past => if k = load then .failed message else status load past
  | _ :: past => status load past

/-- The loads that gets were given, in the order of the gets. -/
def handed : Past → List Nat
  | [] => []
  | .gave k :: past => handed past ++ [k]
  | _ :: past => handed past

/-- Whether something that began at a time has been held for as long as it may. -/
def reached (limit : Option Float) (since now : Float) : Bool :=
  match limit with
  | none => false
  | some ms => now - since ≥ ms

/-- The load that a get is given without a new one: the latest, unless it has
failed or has been held for as long as loads may be. -/
def current? (limit : Option Float) (now : Float) (past : Past) : Option Nat :=
  match past.latest? with
  | none => none
  | some (k, since) =>
    if (past.status k).isFailed || reached limit since now then none else some k

/-- The latest load and its time, unless it has failed. -/
def held (past : Past) : Option (Nat × Float) :=
  past.latest?.filter fun x => !(past.status x.1).isFailed

end Past

/-! ## 2. Chronicles -/

/-- All that has happened to a cache, the time, and what the next loads will do. -/
structure Chronicle where
  past : Past
  clock : Float
  behaviours : List Behaviour

namespace Chronicle

/-- Nothing has happened. -/
def start (clock : Float) : Chronicle := ⟨[], clock, []⟩

/-- Adds a deed. -/
def tell (d : Deed) (c : Chronicle) : Chronicle := { c with past := d :: c.past }

/-- Adds the deed that settles a load, unless the load is settled or has not begun. -/
def settle (load : Nat) (d : Deed) (c : Chronicle) : Chronicle :=
  if load < c.past.begun ∧ (c.past.status load).isPending = true then c.tell d else c

/-- A load begins and is given. -/
def begin (c : Chronicle) : Chronicle where
  past := .gave c.past.begun :: .began c.clock :: c.past
  clock := c.clock
  behaviours := c.behaviours.tail

/-- A get: it is given the current load, or a new one, which may settle at once. -/
def get (limit : Option Float) (c : Chronicle) : Chronicle :=
  match c.past.current? limit c.clock with
  | some k => c.tell (.gave k)
  | none =>
    match c.behaviours.head? with
    | some (.yields v) => c.begin.settle c.past.begun (.succeeded c.past.begun v)
    | some (.fails message) => c.begin.settle c.past.begun (.failed c.past.begun message)
    | _ => c.begin

/-- What an event adds. -/
def step (limit : Option Float) (c : Chronicle) : Loader.Event → Chronicle
  | .get => c.get limit
  | .invalidate => c.tell .forgot
  | .advance ms => { c with clock := c.clock + ms }
  | .expect behaviours => { c with behaviours := c.behaviours ++ behaviours }
  | .resolve load v => c.settle load (.succeeded load v)
  | .reject load message => c.settle load (.failed load message)

/-- What a run of events adds. -/
def run (limit : Option Float) (c : Chronicle) (events : List Loader.Event) : Chronicle :=
  events.foldl (step limit) c

end Chronicle

/-! ## 3. Loads that keep to themselves -/

/-- A load that waits or settles, and does nothing else. -/
def Behaviour.isPlain : Behaviour → Bool
  | .waits => true
  | .yields _ => true
  | .fails _ => true
  | _ => false

/-- An event after which all loads to come still keep to themselves. -/
def Loader.Event.Plain : Loader.Event → Prop
  | .expect behaviours => ∀ b ∈ behaviours, b.isPlain = true
  | _ => True

namespace Loader

/-- A new load is stored and handed out, and waits. -/
def opened (l : Loader) : Loader :=
  { (l.push.keep l.loads.length).hand l.loads.length with behaviours := l.behaviours.tail }

section get

variable {l : Loader}

theorem obtainBy_of_fresh {k : Nat} (h : l.fresh? = some k)
    (call : Nat → Nat → Loader → Loader × Late) : l.obtainBy call = ⟨l, k, []⟩ := by
  rw [obtainBy, h]

/-- What is begun and stored is called in between. -/
theorem obtain_of_stale (h : l.fresh? = none) (b : Behaviour) :
    l.obtain b =
      ⟨(act b l.loads.length (l.memo.generation + 1) l.push).1.keep l.loads.length,
        l.loads.length, (act b l.loads.length (l.memo.generation + 1) l.push).2⟩ := by
  rw [obtain, obtainBy, h]

theorem get_of_fresh {k : Nat} (h : l.fresh? = some k) : l.get = l.hand k := by
  rw [get, obtain, obtainBy_of_fresh h, h]
  rfl

/-- A get with nothing to be given begins a load, which then does what it does. -/
theorem get_of_stale (h : l.fresh? = none) (hp : ∀ b ∈ l.behaviours, b.isPlain = true) :
    l.get =
      match l.behaviours.head? with
      | some (.yields v) => l.opened.resolve l.loads.length v
      | some (.fails message) => l.opened.reject l.loads.length message
      | _ => l.opened := by
  rw [get, obtain_of_stale h, h]
  cases hb : l.behaviours with
  | nil => simp [opened, hb, act, rejectAll]
  | cons b rest =>
    have hplain : b.isPlain = true := hp b (by simp [hb])
    cases b with
    | waits => simp [opened, hb, act, rejectAll]
    | yields v =>
      -- a load that is done at once is one that waits and is done right after
      simp [opened, hb, act, rejectAll, resolve, push, keep, hand, setStatus]
    | fails message => simp [opened, hb, act, rejectAll]
    | _ => cases hplain

/-- A get with nothing to be given begins one load and is given that. -/
theorem get_begins (h : l.fresh? = none) (hp : ∀ b ∈ l.behaviours, b.isPlain = true) :
    l.get.loads.length = l.loads.length + 1 ∧ l.get.handed = l.handed ++ [l.loads.length] := by
  have hopened : l.opened.loads.length = l.loads.length + 1 ∧
      l.opened.handed = l.handed ++ [l.loads.length] :=
    ⟨List.length_append, rfl⟩
  rw [get_of_stale h hp]
  split
  · unfold resolve setStatus
    split <;> simpa using hopened
  · unfold reject setStatus
    split <;> simpa using hopened
  · exact hopened

end get

/-! ## 4. Agreement -/

/-- A cache is in the state that its chronicle tells. -/
structure Agrees (limit : Option Float) (l : Loader) (c : Chronicle) : Prop where
  limit : l.limit = limit
  clock : l.clock = c.clock
  behaviours : l.behaviours = c.behaviours
  plain : ∀ b ∈ c.behaviours, b.isPlain = true
  handed : l.handed = c.past.handed
  count : l.loads.length = c.past.begun
  status : ∀ (k : Nat) (x : Load), l.loads[k]? = some x → x.status = c.past.status k
  unborn : ∀ k, c.past.begun ≤ k → c.past.status k = .pending
  entry : l.memo.entry = c.past.held.map fun x => ⟨x.1, x.2⟩
  bound : ∀ (k : Nat) (x : Load), l.loads[k]? = some x → x.generation ≤ l.memo.generation
  own : ∀ (k : Nat) (x : Load), l.loads[k]? = some x →
    (x.generation = l.memo.generation ↔ c.past.latest?.map Prod.fst = some k)

theorem agrees_start (limit : Option Float) (clock : Float) :
    (start limit clock).Agrees limit (.start clock) where
  limit := rfl
  clock := rfl
  behaviours := rfl
  plain := by simp [Chronicle.start]
  handed := rfl
  count := rfl
  status k x h := by simp [start] at h
  unborn k _ := rfl
  entry := rfl
  bound k x h := by simp [start] at h
  own k x h := by simp [start] at h

namespace Agrees

variable {limit : Option Float} {l : Loader} {c : Chronicle}

/-- What the cache offers is what the chronicle says. -/
theorem fresh? (h : l.Agrees limit c) : l.fresh? = c.past.current? limit c.clock := by
  have hexpired : ∀ k since, Memo.expired limit c.clock ⟨k, since⟩ =
      Past.reached limit since c.clock := fun _ _ => rfl
  unfold Loader.fresh? Memo.fresh? Past.current?
  rw [h.limit, h.clock, h.entry]
  unfold Past.held
  rcases c.past.latest? with _ | ⟨k, since⟩
  · rfl
  · cases hf : (c.past.status k).isFailed <;> simp [Option.filter, hf, hexpired]

theorem hand (h : l.Agrees limit c) (k : Nat) :
    (l.hand k).Agrees limit (c.tell (.gave k)) :=
  { h with handed := congrArg (· ++ [k]) h.handed }

/-- Forgetting leaves every load without a claim to the entry. -/
theorem invalidate (h : l.Agrees limit c) : l.invalidate.Agrees limit (c.tell .forgot) :=
  { h with
    entry := rfl
    bound := fun k x hx => Nat.le_succ_of_le (h.bound k x hx)
    own := by
      intro k x hx
      have hb := h.bound k x hx
      refine ⟨fun he => ?_, fun he => by cases he⟩
      have he : x.generation = l.memo.generation + 1 := he
      omega }

/-- A load that begins is the latest, and the only one of its generation. -/
theorem opened (h : l.Agrees limit c) : l.opened.Agrees limit c.begin := by
  have hnew : ∀ (k : Nat) (x : Load), l.opened.loads[k]? = some x →
      l.loads[k]? = some x ∧ k < c.past.begun ∨
        x = ⟨l.memo.generation + 1, .pending⟩ ∧ k = c.past.begun := by
    intro k x hx
    have hx : (l.loads ++ [⟨l.memo.generation + 1, .pending⟩])[k]? = some x := hx
    rcases Nat.lt_trichotomy k l.loads.length with hk | hk | hk
    · rw [List.getElem?_append_left hk] at hx
      exact .inl ⟨hx, h.count ▸ hk⟩
    · subst hk
      simp only [List.getElem?_concat_length, Option.some.injEq] at hx
      exact .inr ⟨hx.symm, h.count⟩
    · rw [List.getElem?_eq_none (by rw [List.length_append]; exact hk)] at hx
      cases hx
  refine
    { limit := h.limit
      clock := h.clock
      behaviours := congrArg List.tail h.behaviours
      plain := fun b hb => h.plain b (List.mem_of_mem_tail hb)
      handed := ?_, count := ?_, status := ?_, unborn := ?_, entry := ?_, bound := ?_, own := ?_ }
  · show l.handed ++ [l.loads.length] = c.past.handed ++ [c.past.begun]
    rw [h.handed, h.count]
  · show (l.loads ++ [_]).length = c.past.begun + 1
    rw [List.length_append, h.count]
    rfl
  · intro k x hx
    rcases hnew k x hx with ⟨hx, -⟩ | ⟨rfl, rfl⟩
    · exact h.status k x hx
    · exact (h.unborn _ (Nat.le_refl _)).symm
  · intro k hk
    exact h.unborn k (Nat.le_of_succ_le hk)
  · show some (⟨l.loads.length, l.clock⟩ : Entry) =
      (Option.filter (fun x => !(c.past.status x.1).isFailed) (some (c.past.begun, c.clock))).map _
    rw [h.count, h.clock]
    simp [Option.filter, h.unborn c.past.begun (Nat.le_refl _), Status.isFailed]
  · intro k x hx
    rcases hnew k x hx with ⟨hx, -⟩ | ⟨rfl, -⟩
    · exact Nat.le_succ_of_le (h.bound k x hx)
    · exact Nat.le_refl _
  · -- a load that was there before is of a generation that has passed
    intro k x hx
    show x.generation = l.memo.generation + 1 ↔ some c.past.begun = some k
    rcases hnew k x hx with ⟨hx, hk⟩ | ⟨rfl, rfl⟩
    · have hb := h.bound k x hx
      refine ⟨fun he => by omega, fun he => ?_⟩
      obtain rfl := Option.some.inj he
      exact absurd hk (Nat.lt_irrefl _)
    · simp

/-- What settling a load does to the entry: its failure clears the entry that
stands for it. -/
theorem entry_settled (h : l.Agrees limit c) {k g : Nat}
    (hk : l.loads[k]? = some ⟨g, .pending⟩) {d : Deed} {outcome : Status}
    (hlatest : Past.latest? (d :: c.past) = c.past.latest?)
    (hstatus : ∀ j, Past.status j (d :: c.past) = if k = j then outcome else c.past.status j) :
    (if outcome.isFailed = true ∧ g = l.memo.generation then none else l.memo.entry) =
      (Past.held (d :: c.past)).map fun x => ⟨x.1, x.2⟩ := by
  have hwas : (c.past.status k).isFailed = false := by
    rw [← h.status k _ hk]
    rfl
  have hown : g = l.memo.generation ↔ c.past.latest?.map Prod.fst = some k := h.own k _ hk
  rw [h.entry]
  unfold Past.held
  rw [hlatest]
  rcases hl : c.past.latest? with _ | ⟨j, since⟩
  · simp
  · -- the load settles into the entry or past it, by whether it is the latest
    rw [hl] at hown
    by_cases hj : k = j
    · subst hj
      have hg : g = l.memo.generation := hown.mpr rfl
      cases hf : outcome.isFailed <;> simp [Option.filter, hstatus, hwas, hf, hg]
    · have hg : ¬ g = l.memo.generation := by
        intro hg
        exact hj (Option.some.inj (hown.mp hg)).symm
      simp [Option.filter, hstatus, hj, hg]

/-- A load settles, and nothing else changes. -/
theorem settled (h : l.Agrees limit c) {k g : Nat} (hk : l.loads[k]? = some ⟨g, .pending⟩)
    {d : Deed} {outcome : Status} {entry : Option Entry}
    (hhanded : Past.handed (d :: c.past) = c.past.handed)
    (hbegun : Past.begun (d :: c.past) = c.past.begun)
    (hlatest : Past.latest? (d :: c.past) = c.past.latest?)
    (hstatus : ∀ j, Past.status j (d :: c.past) = if k = j then outcome else c.past.status j)
    (hentry : entry =
      if outcome.isFailed = true ∧ g = l.memo.generation then none else l.memo.entry) :
    { l.setStatus k outcome with memo := ⟨l.memo.generation, entry⟩ }.Agrees limit (c.tell d) := by
  have hlt : k < c.past.begun := by
    rw [← h.count]
    exact (List.getElem?_eq_some_iff.mp hk).1
  have hload : ∀ (j : Nat) (x : Load), (l.setStatus k outcome).loads[j]? = some x →
      ∃ y, l.loads[j]? = some y ∧ x.generation = y.generation ∧
        x.status = if k = j then outcome else y.status := by
    intro j x hx
    have hx : (l.loads.modify k _)[j]? = some x := hx
    rw [List.getElem?_modify] at hx
    obtain ⟨y, hy, rfl⟩ := Option.map_eq_some_iff.mp hx
    exact ⟨y, hy, by split <;> rfl, by split <;> rfl⟩
  exact
    { limit := h.limit
      clock := h.clock
      behaviours := h.behaviours
      plain := h.plain
      handed := h.handed.trans hhanded.symm
      count := by
        show (l.loads.modify k _).length = Past.begun (d :: c.past)
        rw [List.length_modify, hbegun, h.count]
      status := by
        intro j x hx
        obtain ⟨y, hy, -, hs⟩ := hload j x hx
        show x.status = Past.status j (d :: c.past)
        rw [hs, hstatus, h.status j y hy]
      unborn := by
        intro j hj
        have hj : c.past.begun ≤ j := hbegun ▸ hj
        show Past.status j (d :: c.past) = .pending
        rw [hstatus, if_neg (by omega), h.unborn j hj]
      entry := hentry.trans (h.entry_settled hk hlatest hstatus)
      bound := by
        intro j x hx
        obtain ⟨y, hy, hg, -⟩ := hload j x hx
        exact hg ▸ h.bound j y hy
      own := by
        intro j x hx
        obtain ⟨y, hy, hg, -⟩ := hload j x hx
        show x.generation = l.memo.generation ↔ (Past.latest? (d :: c.past)).map Prod.fst = some j
        rw [hg, hlatest]
        exact h.own j y hy }

/-- A load that cannot settle any more, or has not begun, is left alone by both. -/
theorem settle_of_not_pending (h : l.Agrees limit c) {k : Nat} (d : Deed)
    (hk : ∀ g, l.loads[k]? ≠ some ⟨g, .pending⟩) : c.settle k d = c := by
  refine if_neg ?_
  rintro ⟨hlt, hpending⟩
  obtain ⟨⟨g, status⟩, hx⟩ : ∃ x, l.loads[k]? = some x :=
    ⟨_, List.getElem?_eq_getElem (by rw [h.count]; exact hlt)⟩
  rw [← h.status k _ hx] at hpending
  cases status with
  | pending => exact hk g hx
  | _ => cases hpending

theorem settle_of_pending (h : l.Agrees limit c) {k g : Nat} (d : Deed)
    (hk : l.loads[k]? = some ⟨g, .pending⟩) : c.settle k d = c.tell d := by
  refine if_pos ⟨?_, ?_⟩
  · rw [← h.count]
    exact (List.getElem?_eq_some_iff.mp hk).1
  · rw [← h.status k _ hk]
    rfl

theorem resolve (h : l.Agrees limit c) (k : Nat) (v : Json) :
    (l.resolve k v).Agrees limit (c.settle k (.succeeded k v)) := by
  by_cases hk : ∃ g, l.loads[k]? = some ⟨g, .pending⟩
  · obtain ⟨g, hk⟩ := hk
    rw [h.settle_of_pending _ hk]
    unfold Loader.resolve
    rw [hk]
    exact h.settled hk rfl rfl rfl (fun _ => rfl) rfl
  · have hk : ∀ g, l.loads[k]? ≠ some ⟨g, .pending⟩ := fun g hg => hk ⟨g, hg⟩
    rw [h.settle_of_not_pending _ hk]
    unfold Loader.resolve
    split
    · rename_i g hg
      exact absurd hg (hk g)
    · exact h

theorem reject (h : l.Agrees limit c) (k : Nat) (message : String) :
    (l.reject k message).Agrees limit (c.settle k (.failed k message)) := by
  by_cases hk : ∃ g, l.loads[k]? = some ⟨g, .pending⟩
  · obtain ⟨g, hk⟩ := hk
    rw [h.settle_of_pending _ hk]
    unfold Loader.reject
    rw [hk]
    have hmemo : l.memo.fail g =
        ⟨l.memo.generation, if g = l.memo.generation then none else l.memo.entry⟩ := by
      unfold Memo.fail
      split <;> rfl
    show { l.setStatus k (.failed message) with memo := l.memo.fail g }.Agrees limit _
    rw [hmemo]
    exact h.settled hk rfl rfl rfl (fun _ => rfl) (by simp [Status.isFailed])
  · have hk : ∀ g, l.loads[k]? ≠ some ⟨g, .pending⟩ := fun g hg => hk ⟨g, hg⟩
    rw [h.settle_of_not_pending _ hk]
    unfold Loader.reject
    split
    · rename_i g hg
      exact absurd hg (hk g)
    · exact h

theorem get (h : l.Agrees limit c) : l.get.Agrees limit (c.get limit) := by
  unfold Chronicle.get
  cases hk : c.past.current? limit c.clock with
  | some k =>
    rw [get_of_fresh (h.fresh?.trans hk)]
    exact h.hand k
  | none =>
    rw [get_of_stale (h.fresh?.trans hk) (h.behaviours ▸ h.plain), h.behaviours, ← h.count]
    split
    · exact h.opened.resolve _ _
    · exact h.opened.reject _ _
    · exact h.opened

/-- Whatever happens to both, the cache and its chronicle still agree. -/
theorem step (h : l.Agrees limit c) {e : Event} (he : e.Plain) :
    (l.step e).Agrees limit (c.step limit e) := by
  cases e with
  | get => exact h.get
  | invalidate => exact h.invalidate
  | advance ms => exact { h with clock := congrArg (· + ms) h.clock }
  | expect behaviours =>
    exact
      { h with
        behaviours := congrArg (· ++ behaviours) h.behaviours
        plain := fun b hb => (List.mem_append.mp hb).elim (h.plain b) (he b) }
  | resolve k v => exact h.resolve k v
  | reject k message => exact h.reject k message

theorem run (h : l.Agrees limit c) {events : List Event} (he : ∀ e ∈ events, e.Plain) :
    (l.run events).Agrees limit (c.run limit events) := by
  induction events generalizing l c with
  | nil => exact h
  | cons e rest ih =>
    obtain ⟨hfirst, hrest⟩ := List.forall_mem_cons.mp he
    exact ih (h.step hfirst) hrest

/-- How far the loads are that were handed out is what their deeds say. -/
theorem statuses (h : l.Agrees limit c) :
    l.statuses = c.past.handed.map fun k => c.past.status k := by
  unfold Loader.statuses
  rw [h.handed]
  refine List.map_congr_left fun k _ => ?_
  cases hx : l.loads[k]? with
  | some x => exact h.status k x hx
  | none =>
    have hk : c.past.begun ≤ k := by
      rw [← h.count]
      exact List.getElem?_eq_none_iff.mp hx
    exact (h.unborn k hk).symm

end Agrees

end Loader

/-! ## 5. What stays -/

namespace Chronicle

/-- What was handed out stays so, and what has settled stays as it is. -/
structure Extends (c c' : Chronicle) : Prop where
  handed : c.past.handed <+: c'.past.handed
  status : ∀ k, (c.past.status k).isPending = false → c'.past.status k = c.past.status k

namespace Extends

variable {c c' c'' : Chronicle}

theorem refl (c : Chronicle) : c.Extends c := ⟨List.prefix_rfl, fun _ _ => rfl⟩

theorem trans (h : c.Extends c') (h' : c'.Extends c'') : c.Extends c'' where
  handed := h.handed.trans h'.handed
  status k hk := by
    have hs := h.status k hk
    rw [h'.status k (hs ▸ hk), hs]

theorem settle (c : Chronicle) {k : Nat} {d : Deed} {outcome : Status}
    (hhanded : Past.handed (d :: c.past) = c.past.handed)
    (hstatus : ∀ j, Past.status j (d :: c.past) = if k = j then outcome else c.past.status j) :
    c.Extends (c.settle k d) := by
  unfold Chronicle.settle
  split
  · rename_i hk
    refine ⟨(congrArg (c.past.handed <+: ·) hhanded).mpr List.prefix_rfl, fun j hj => ?_⟩
    refine (hstatus j).trans (if_neg ?_)
    rintro rfl
    rw [hk.2] at hj
    cases hj
  · exact refl c

theorem begin (c : Chronicle) : c.Extends c.begin :=
  ⟨List.prefix_append _ _, fun _ _ => rfl⟩

theorem step (limit : Option Float) (c : Chronicle) (e : Loader.Event) :
    c.Extends (c.step limit e) := by
  cases e with
  | get =>
    show c.Extends (c.get limit)
    unfold Chronicle.get
    split
    · exact ⟨List.prefix_append _ _, fun _ _ => rfl⟩
    · split
      · exact (begin c).trans (settle _ rfl fun _ => rfl)
      · exact (begin c).trans (settle _ rfl fun _ => rfl)
      · exact begin c
  | invalidate => exact ⟨List.prefix_rfl, fun _ _ => rfl⟩
  | advance ms => exact ⟨List.prefix_rfl, fun _ _ => rfl⟩
  | expect behaviours => exact ⟨List.prefix_rfl, fun _ _ => rfl⟩
  | resolve k v => exact settle c rfl fun _ => rfl
  | reject k message => exact settle c rfl fun _ => rfl

theorem run (limit : Option Float) (c : Chronicle) (events : List Loader.Event) :
    c.Extends (c.run limit events) := by
  induction events generalizing c with
  | nil => exact refl c
  | cons e rest ih => exact (step limit c e).trans (ih _)

end Extends

end Chronicle

namespace Loader

/-! ## 6. Main statement -/

/-- The failure of a load that is not the latest leaves the entry alone. -/
theorem Agrees.entry_reject {limit : Option Float} {l : Loader} {c : Chronicle}
    (h : l.Agrees limit c) {k : Nat} (hk : c.past.latest?.map Prod.fst ≠ some k)
    (message : String) : (l.reject k message).memo.entry = l.memo.entry := by
  unfold Loader.reject
  split
  · rename_i generation hload
    have hne : generation ≠ l.memo.generation := fun hg => hk ((h.own k _ hload).mp hg)
    exact congrArg Memo.entry (Memo.fail_of_ne hne)
  · rfl

/-- What a memoizing cache does, whatever has happened to it, is told by the whole
of its past. A get is given the latest load that has begun since the cache was last
told to forget, and begins none, unless there is no such load, or it has failed, or
it has been held for as long as loads may be; then the get begins one and is given
that. How far the loads are that were handed out is what has come of these loads,
later too; and the failure of a load that is not the latest does not touch the
entry. -/
theorem memoizes_latest (limit : Option Float) (clock : Float) {events later : List Event}
    (hevents : ∀ e ∈ events, e.Plain) (hlater : ∀ e ∈ later, e.Plain) :
    let l := (start limit clock).run events
    let past := ((Chronicle.start clock).run limit events).past
    (∀ k, past.current? limit l.clock = some k →
      l.get.loads = l.loads ∧ l.get.handed = l.handed ++ [k]) ∧
    (past.current? limit l.clock = none →
      l.get.loads.length = l.loads.length + 1 ∧ l.get.handed = l.handed ++ [l.loads.length]) ∧
    l.loads.length = past.begun ∧ l.handed = past.handed ∧
    l.statuses = past.handed.map (fun k => past.status k) ∧
    (∀ slot k : Nat, l.handed[slot]? = some k →
      (l.run later).handed[slot]? = some k ∧
      ((past.status k).isPending = false →
        (l.run later).statuses[slot]? = some (past.status k))) ∧
    ∀ k message, past.latest?.map Prod.fst ≠ some k →
      (l.reject k message).memo.entry = l.memo.entry := by
  intro l past
  have h : l.Agrees limit ((Chronicle.start clock).run limit events) :=
    (agrees_start limit clock).run hevents
  have hfresh : l.fresh? = past.current? limit l.clock := h.clock ▸ h.fresh?
  refine ⟨?_, ?_, h.count, h.handed, h.statuses, ?_, fun k message hk => h.entry_reject hk message⟩
  · intro k hk
    rw [get_of_fresh (hfresh.trans hk)]
    exact ⟨rfl, rfl⟩
  · intro hk
    exact get_begins (hfresh.trans hk) (h.behaviours ▸ h.plain)
  · intro slot k hslot
    have hlast := h.run hlater
    have hext := Chronicle.Extends.run limit ((Chronicle.start clock).run limit events) later
    rw [h.handed] at hslot
    have hslot' :
        ((((Chronicle.start clock).run limit events).run limit later).past.handed)[slot]? =
          some k := by
      obtain ⟨more, hmore⟩ := hext.handed
      rw [← hmore, List.getElem?_append_left (List.getElem?_eq_some_iff.mp hslot).1]
      exact hslot
    refine ⟨hlast.handed ▸ hslot', fun hsettled => ?_⟩
    rw [hlast.statuses, List.getElem?_map, hslot', Option.map_some, hext.status k hsettled]

/-- Two gets around a forgetting, the failure of the first load afterwards, and a
third get before the second load has been held for half a second. -/
def overtaken : List Event := [.get, .invalidate, .get, .reject 0 "refused", .advance 499]

/-- The third get is given the second load, and what that succeeds with. -/
theorem memoizes_overtaken :
    (∀ e ∈ overtaken, e.Plain) ∧ (∀ e ∈ [Event.resolve 1 (.num 7), .get], e.Plain) ∧
    let l := (start (some 500) 1000).run overtaken
    l.get.loads = l.loads ∧ l.get.handed = [0, 1, 1] ∧
      (l.run [.resolve 1 (.num 7), .get]).statuses[0]? = some (.failed "refused") := by
  have hevents : ∀ e ∈ overtaken, e.Plain := by
    simp [overtaken, Event.Plain]
  have hlater : ∀ e ∈ [Event.resolve 1 (.num 7), .get], e.Plain := by
    simp [Event.Plain]
  have hgiven : ((Chronicle.start 1000).run (some 500) overtaken).past.current? (some 500)
      ((start (some 500) 1000).run overtaken).clock = some 1 := by
    decide
  obtain ⟨hget, -, -, hhanded, -, hstays, -⟩ :=
    memoizes_latest (some 500) 1000 hevents hlater
  refine ⟨hevents, hlater, (hget 1 hgiven).1, (hget 1 hgiven).2, (hstays 0 0 rfl).2 rfl⟩

end Loader

end MagnumClient.Cache
