/-
MagnumClient.Proofs.FailedLoads — which loads that have failed a cache goes on giving.

A cache means to keep no load that has failed: the failure of a load clears the entry. It
does so only for a load of the cache's own generation, and it does so when the load fails,
not when the load is stored. That is right for a load that keeps to itself. But a load
that throws while it is called has failed, and has cleared the entry, before it is stored;
and one that makes the cache forget, or gets from it, while it is called belongs to a
generation that has passed by the time it is stored. Such a load stays in the cache when
it has failed.

`Loader.manners` says with which behaviour each load of a run began, those included that
began inside others. What is left by a load that has been called is `Loader.Acted`, by
induction on its behaviour, and what is left by a get is `Loader.Begun`. The invariant of
runs is `Loader.Sound`: the load that the cache holds would clear the entry by its failure
exactly if it began with a behaviour that keeps to itself. So `failed_given_iff` is exact:
it says when a load that has failed is given by the next get, and that one which is not is
never given again.
-/
import MagnumClient.Proofs.Chronicle

namespace MagnumClient.Cache

/-! ## 1. How loads begin -/

/-- Whether the failure of a load would clear the entry of a cache: the load is of the
cache's generation, and has not failed before. -/
def Load.Clears (m : Memo) (x : Load) : Prop :=
  x.generation = m.generation ∧ x.status.isFailed = false

namespace Loader

/-- The behaviours of the loads that begin inside a load, in order. -/
def inside : Behaviour → Nat → Nat → Loader → List Behaviour
  | .invalidates next, k, generation, l => inside next k generation l.invalidate
  | .gets inner next, k, generation, l =>
    let got := l.obtain inner
    (if l.fresh?.isNone then
      inner :: inside inner l.loads.length (l.memo.generation + 1) l.push else []) ++
      inside next k generation (got.loader.hand got.load)
  | _, _, _, _ => []

/-- The behaviours of the loads that a get begins, in order: of one that behaves as told, and of
those inside it. -/
def begun (l : Loader) (b : Behaviour) : List Behaviour :=
  if l.fresh?.isNone then b :: inside b l.loads.length (l.memo.generation + 1) l.push else []

/-- The behaviours of the loads that an event begins. -/
def begins (l : Loader) : Event → List Behaviour
  | .get => l.begun (l.behaviours.headD .waits)
  | _ => []

/-- The behaviours of the loads that a run begins, in the order of the loads. -/
def manners : Loader → List Event → List Behaviour
  | _, [] => []
  | l, e :: es => l.begins e ++ manners (l.step e) es

/-- A load has failed. -/
def Failed (k : Nat) (l : Loader) : Prop :=
  ∃ x : Load, l.loads[k]? = some x ∧ x.status.isFailed = true

/-- The load that the cache holds, expired or not. -/
def held? (l : Loader) : Option Nat := l.memo.entry.map Entry.load

/-- The load that the next get is given. -/
def given? (l : Loader) : Option Nat := l.get.handed.getLast?

theorem held?_of_fresh? {l : Loader} {k : Nat} (h : l.fresh? = some k) : l.held? = some k := by
  unfold fresh? Memo.fresh? at h
  unfold held?
  cases he : l.memo.entry with
  | none => simp [he] at h
  | some e =>
    simp only [he] at h
    split at h
    · cases h
    · exact h

/-! ## 2. What a get begins -/

theorem getElem?_setStatus (k : Nat) (status : Status) (l : Loader) (j : Nat) :
    (l.setStatus k status).loads[j]? =
      (l.loads[j]?).map fun x => if k = j then { x with status := status } else x := by
  show (l.loads.modify k _)[j]? = _
  rw [List.getElem?_modify]
  split <;> simp_all

/-- What a load leaves that has been called, by its number. -/
structure Acted (b : Behaviour) (k generation : Nat) (l l' : Loader) : Prop where
  clock : l'.clock = l.clock
  newer : l.memo.generation ≤ l'.memo.generation
  count : l'.loads.length = l.loads.length + (inside b k generation l).length
  /-- It settles no load but itself. -/
  others : ∀ j < l.loads.length, j ≠ k → l'.loads[j]? = l.loads[j]?
  own : ∀ x, l.loads[k]? = some x → ∃ y, l'.loads[k]? = some y ∧ y.generation = x.generation
  /-- If the cache offers nothing when a load of its generation is called, then the load would
  clear the entry by its failure exactly if it keeps to itself. -/
  clears : ∀ x y, l.loads[k]? = some x → l'.loads[k]? = some y → l.fresh? = none →
    x.Clears l.memo → (b.isPlain = true ↔ y.Clears l'.memo)

/-- What a get does that is offered nothing: it begins loads and stores the first of them.
The failures that are noticed last are not part of it. -/
structure Begun (l : Loader) (b : Behaviour) (got : Obtained) : Prop where
  load : got.load = l.loads.length
  clock : got.loader.clock = l.clock
  entry : got.loader.memo.entry = some ⟨l.loads.length, l.clock⟩
  newer : l.memo.generation < got.loader.memo.generation
  count : got.loader.loads.length = l.loads.length + (l.begun b).length
  older : ∀ j < l.loads.length, got.loader.loads[j]? = l.loads[j]?
  own : ∃ x, got.loader.loads[l.loads.length]? = some x ∧
    (b.isPlain = true ↔ x.Clears got.loader.memo)

theorem getElem?_push (l : Loader) :
    l.push.loads[l.loads.length]? = some ⟨l.memo.generation + 1, .pending⟩ := by
  simp [push]

/-- What is begun is called, and then stored. -/
theorem begun_of_acted {b : Behaviour}
    (hacted : ∀ k generation l, Acted b k generation l (act b k generation l).1) {l : Loader}
    (h : l.fresh? = none) : Begun l b (l.obtain b) := by
  have hcalled := hacted l.loads.length (l.memo.generation + 1) l.push
  obtain ⟨y, hy, -⟩ := hcalled.own _ l.getElem?_push
  rw [obtain_of_stale h]
  refine
    { load := rfl
      clock := hcalled.clock
      entry := congrArg (fun t => some (⟨l.loads.length, t⟩ : Entry)) hcalled.clock
      newer := Nat.lt_of_succ_le hcalled.newer
      count := ?_
      older := fun j hj => ?_
      own := ⟨y, hy, hcalled.clears _ y l.getElem?_push hy h ⟨rfl, rfl⟩⟩ }
  · have hlength : l.push.loads.length = l.loads.length + 1 := List.length_append
    show (act b l.loads.length (l.memo.generation + 1) l.push).1.loads.length = _
    rw [hcalled.count, hlength, begun, h]
    simp only [Option.isNone_none, if_true, List.length_cons]
    omega
  · have hlt : j < l.push.loads.length := Nat.lt_of_lt_of_le hj (by simp [push])
    refine (hcalled.others j hlt (Nat.ne_of_lt hj)).trans ?_
    exact List.getElem?_append_left hj

/-- A load that settles itself at most. -/
theorem acted_setStatus (b : Behaviour) (k generation : Nat) (l : Loader) {status : Status}
    {memo : Memo} (hmemo : memo.generation = l.memo.generation)
    (hinside : inside b k generation l = [])
    (hplain : b.isPlain = true ↔ status.isFailed = false) :
    Acted b k generation l { l.setStatus k status with memo := memo } where
  clock := rfl
  newer := Nat.le_of_eq hmemo.symm
  count := by
    rw [hinside]
    exact List.length_modify ..
  others j _ hne := by
    refine (getElem?_setStatus k status l j).trans ?_
    simp [Ne.symm hne]
  own x hx := by
    refine ⟨{ x with status := status }, (getElem?_setStatus k status l k).trans ?_, rfl⟩
    simp [hx]
  clears x y hx hy _ hclears := by
    have hsome : y = { x with status := status } := by
      have hy := (getElem?_setStatus k status l k).symm.trans hy
      simpa [hx] using hy.symm
    rw [hplain, hsome]
    exact ⟨fun hstatus => ⟨hclears.1.trans hmemo.symm, hstatus⟩, fun h => h.2⟩

/-- A load that leaves everything as it is. -/
theorem acted_self {b : Behaviour} {k generation : Nat} {l : Loader}
    (hinside : inside b k generation l = []) (hplain : b.isPlain = true) :
    Acted b k generation l l where
  clock := rfl
  newer := Nat.le_refl _
  count := by rw [hinside]; rfl
  others _ _ _ := rfl
  own x hx := ⟨x, hx, rfl⟩
  clears x y hx hy _ hclears := by
    obtain rfl := Option.some.inj (hx.symm.trans hy)
    exact iff_of_true hplain hclears

/-- A load that has called into the cache belongs to a generation that has passed. -/
theorem Acted.of_passed {b next : Behaviour} {k generation : Nat} {l l₁ l' : Loader}
    (h : Acted next k generation l₁ l') (hb : b.isPlain = false) (hclock : l₁.clock = l.clock)
    (hnewer : l.memo.generation ≤ l₁.memo.generation)
    (hpassed : l.fresh? = none → l.memo.generation < l₁.memo.generation)
    (hcount : l₁.loads.length + (inside next k generation l₁).length =
      l.loads.length + (inside b k generation l).length)
    (holder : ∀ j < l.loads.length, l₁.loads[j]? = l.loads[j]?)
    (hle : l.loads.length ≤ l₁.loads.length) : Acted b k generation l l' where
  clock := h.clock.trans hclock
  newer := Nat.le_trans hnewer h.newer
  count := h.count.trans hcount
  others j hj hne := (h.others j (Nat.lt_of_lt_of_le hj hle) hne).trans (holder j hj)
  own x hx := h.own x ((holder k (List.getElem?_eq_some_iff.mp hx).1).trans hx)
  clears x y hx hy hstale hclears := by
    obtain ⟨y', hy', hgeneration⟩ :=
      h.own x ((holder k (List.getElem?_eq_some_iff.mp hx).1).trans hx)
    obtain rfl := Option.some.inj (hy.symm.trans hy')
    refine iff_of_false (by simp [hb]) fun hc => ?_
    have hlt := Nat.lt_of_lt_of_le (hpassed hstale) h.newer
    have hsame : y.generation = _ := hc.1
    rw [← hsame, hgeneration, hclears.1] at hlt
    exact Nat.lt_irrefl _ hlt

/-- What a load does, by its behaviour. Where it gets from the cache and is given a load, nothing
begins; where a load begins inside it, its own generation has passed from then on. -/
theorem acted_act (b : Behaviour) (k generation : Nat) (l : Loader) :
    Acted b k generation l (act b k generation l).1 := by
  induction b generalizing k generation l with
  | waits => exact acted_self rfl rfl
  | yields v => exact acted_setStatus _ k generation l rfl rfl (iff_of_true rfl rfl)
  | fails message => exact acted_self rfl rfl
  | throws message =>
    refine acted_setStatus _ k generation l ?_ rfl
      (iff_of_false Bool.false_ne_true (by simp [Status.isFailed]))
    unfold Memo.fail
    split <;> rfl
  | invalidates next ih =>
    have hnewer : l.memo.generation < l.invalidate.memo.generation := Nat.lt_succ_self _
    exact (ih k generation l.invalidate).of_passed rfl rfl (Nat.le_of_lt hnewer)
      (fun _ => hnewer) rfl (fun _ _ => rfl) (Nat.le_refl _)
  | gets inner next ihInner ihNext =>
    have hnext := ihNext k generation ((l.obtain inner).loader.hand (l.obtain inner).load)
    cases hf : l.fresh? with
    | some j =>
      have hgot : l.obtain inner = ⟨l, j, []⟩ := obtainBy_of_fresh hf _
      rw [hgot] at hnext
      have hact : (act (.gets inner next) k generation l).1 =
          (act next k generation (l.hand j)).1 := by
        simp only [act, show l.obtainBy (fun j g => act inner j g) = _ from hgot]
      rw [hact]
      refine hnext.of_passed rfl rfl (Nat.le_refl _)
        (fun hnone => absurd (hf.symm.trans hnone) (by simp)) ?_ (fun _ _ => rfl) (Nat.le_refl _)
      simp [inside, hgot, hf, hand]
    | none =>
      have hbegun := begun_of_acted ihInner hf
      have hle : l.loads.length ≤ (l.obtain inner).loader.loads.length := by
        rw [hbegun.count]
        exact Nat.le_add_right ..
      refine hnext.of_passed rfl hbegun.clock (Nat.le_of_lt hbegun.newer) (fun _ => hbegun.newer)
        ?_ hbegun.older hle
      show (l.obtain inner).loader.loads.length + _ = _
      rw [hbegun.count, inside, List.length_append, begun]
      omega

theorem begun_obtain (b : Behaviour) {l : Loader} (h : l.fresh? = none) :
    Begun l b (l.obtain b) := begun_of_acted (acted_act b) h

/-- A get that is offered nothing hands out the first load that it begins, and then some
of them may fail. -/
theorem get_cases {l : Loader} (h : l.fresh? = none) :
    ∃ (next : Loader) (late : Late),
      next.loads = (l.obtain (l.behaviours.headD .waits)).loader.loads ∧
      next.memo = (l.obtain (l.behaviours.headD .waits)).loader.memo ∧
      next.handed.getLast? = some l.loads.length ∧ l.get = next.rejectAll late := by
  have hload := (begun_obtain (l.behaviours.headD .waits) h).load
  let got := l.obtain (l.behaviours.headD .waits)
  let left := if l.fresh?.isSome then l.behaviours else l.behaviours.tail
  refine ⟨{ got.loader.hand got.load with behaviours := left }, got.late, rfl, rfl, ?_, rfl⟩
  show (got.loader.handed ++ [got.load]).getLast? = _
  rw [List.getLast?_append, show got.load = _ from hload]
  rfl

/-- What the failure of a load keeps, the failures of several keep. -/
theorem rejectAll_induct {P : Loader → Prop} {l : Loader} (late : Late) (h : P l)
    (hreject : ∀ l k message, P l → P (l.reject k message)) : P (l.rejectAll late) := by
  unfold rejectAll
  induction late generalizing l with
  | nil => exact h
  | cons failure rest ih => exact ih (hreject l _ _ h)

/-! ## 3. What the cache holds -/

/-- The load that the cache holds would clear the entry by its failure exactly if it began
with a behaviour that keeps to itself. -/
structure Sound (manners : List Behaviour) (l : Loader) : Prop where
  count : l.loads.length = manners.length
  entry : ∀ e, l.memo.entry = some e → ∃ b x, manners[e.load]? = some b ∧
    l.loads[e.load]? = some x ∧ (b.isPlain = true ↔ x.Clears l.memo)

namespace Sound

variable {ms : List Behaviour} {l : Loader}

theorem congr (h : l.Sound ms) {l' : Loader} (hloads : l'.loads = l.loads)
    (hmemo : l'.memo = l.memo) : l'.Sound ms where
  count := by rw [hloads, h.count]
  entry := by rw [hloads, hmemo]; exact h.entry

/-- The status of a load can change as long as it does not come to matter. -/
theorem setStatus (h : l.Sound ms) {k : Nat} {status : Status}
    (hk : ∀ x, l.loads[k]? = some x → l.held? = some k →
      (Load.Clears l.memo { x with status := status } ↔ x.Clears l.memo)) :
    (l.setStatus k status).Sound ms where
  count := (List.length_modify ..).trans h.count
  entry e he := by
    obtain ⟨b, x, hb, hx, hiff⟩ := h.entry e he
    by_cases hke : k = e.load
    · subst hke
      have hheld : l.held? = some e.load := congrArg (Option.map Entry.load) he
      refine ⟨b, _, hb, ?_, hiff.trans (hk x hx hheld).symm⟩
      rw [getElem?_setStatus, hx]
      simp
    · refine ⟨b, x, hb, ?_, hiff⟩
      rw [getElem?_setStatus, hx]
      simp [hke]

theorem resolve (h : l.Sound ms) (k : Nat) (v : Json) : (l.resolve k v).Sound ms := by
  unfold Loader.resolve
  split
  · rename_i generation hload
    refine h.setStatus fun x hx _ => ?_
    obtain rfl : _ = x := Option.some.inj (hload.symm.trans hx)
    rfl
  · exact h

/-- The failure of a load clears the entry, or finds that a newer generation exists and
does not matter to it. -/
theorem reject (h : l.Sound ms) (k : Nat) (message : String) : (l.reject k message).Sound ms := by
  unfold Loader.reject
  split
  · rename_i generation hload
    by_cases hg : generation = l.memo.generation
    · refine ⟨(List.length_modify ..).trans h.count, fun e he => ?_⟩
      have hnone : (l.memo.fail generation).entry = none := by
        unfold Memo.fail
        rw [if_pos hg]
      rw [show (l.memo.fail generation).entry = some e from he] at hnone
      cases hnone
    · have hmemo : (l.setStatus k (.failed message)).memo.fail generation = l.memo :=
        Memo.fail_of_ne hg
      show ({ l.setStatus k (.failed message) with memo := _ } : Loader).Sound ms
      rw [hmemo]
      refine h.setStatus fun x hx _ => ?_
      obtain rfl : _ = x := Option.some.inj (hload.symm.trans hx)
      exact iff_of_false (fun hc => hg hc.1) fun hc => hg hc.1
  · exact h

theorem get (h : l.Sound ms) : l.get.Sound (ms ++ l.begins .get) := by
  cases hf : l.fresh? with
  | some k =>
    have hnone : l.begins .get = [] := by simp [begins, Loader.begun, hf]
    rw [get_of_fresh hf, hnone, List.append_nil]
    exact h.congr rfl rfl
  | none =>
    let b := l.behaviours.headD .waits
    have hbegun := begun_obtain b hf
    have hbegins : l.begins .get = b :: inside b l.loads.length (l.memo.generation + 1) l.push := by
      simp [begins, Loader.begun, hf, b]
    have hgot : (l.obtain b).loader.Sound (ms ++ l.begins .get) := by
      refine ⟨?_, fun e he => ?_⟩
      · rw [hbegun.count, List.length_append, h.count]
        rfl
      · obtain rfl := Option.some.inj (hbegun.entry.symm.trans he)
        obtain ⟨x, hx, hclears⟩ := hbegun.own
        refine ⟨b, x, ?_, hx, hclears⟩
        rw [hbegins, h.count]
        simp
    obtain ⟨next, late, hsame, hmemo, -, hget⟩ := get_cases hf
    rw [hget]
    exact rejectAll_induct late (hgot.congr hsame hmemo) fun _ k message h => h.reject k message

theorem step (h : l.Sound ms) (e : Event) : (l.step e).Sound (ms ++ l.begins e) := by
  have quiet : ∀ l' : Loader, l'.Sound ms → l'.Sound (ms ++ []) := by
    intro l' h'
    rwa [List.append_nil]
  cases e with
  | get => exact h.get
  | invalidate => exact quiet _ ⟨h.count, fun e he => by cases he⟩
  | advance time => exact quiet _ (h.congr rfl rfl)
  | expect behaviours => exact quiet _ (h.congr rfl rfl)
  | resolve k v => exact quiet _ (h.resolve k v)
  | reject k message => exact quiet _ (h.reject k message)

theorem run (h : l.Sound ms) (events : List Event) :
    (l.run events).Sound (ms ++ l.manners events) := by
  induction events generalizing l ms with
  | nil =>
    rw [manners, List.append_nil]
    exact h
  | cons e rest ih =>
    rw [manners, ← List.append_assoc]
    exact ih (h.step e)

end Sound

theorem sound_start (limit : Option Float) (clock : Float) : (start limit clock).Sound [] := by
  refine ⟨rfl, ?_⟩
  rintro e ⟨⟩

/-! ## 4. What gets are given -/

@[simp] theorem handed_reject (k : Nat) (message : String) (l : Loader) :
    (l.reject k message).handed = l.handed := by
  unfold reject
  split <;> rfl

@[simp] theorem handed_rejectAll (late : Late) (l : Loader) :
    (l.rejectAll late).handed = l.handed :=
  rejectAll_induct (P := fun x => x.handed = l.handed) late rfl fun x k message h =>
    (handed_reject k message x).trans h

/-- A get is given the load that is offered, or one that it begins. -/
theorem given?_eq (l : Loader) : l.given? = some (l.fresh?.getD l.loads.length) := by
  unfold given?
  cases hf : l.fresh? with
  | some k =>
    rw [get_of_fresh hf]
    simp [hand]
  | none =>
    obtain ⟨next, late, -, -, hlast, hget⟩ := get_cases hf
    rw [hget, handed_rejectAll]
    exact hlast

theorem given?_eq_some_iff {l : Loader} {k : Nat} (hk : k < l.loads.length) :
    l.given? = some k ↔ l.fresh? = some k := by
  rw [given?_eq]
  cases l.fresh? with
  | some j => rfl
  | none =>
    simp only [Option.getD_none, Option.some.injEq, reduceCtorEq, iff_false]
    exact Nat.ne_of_gt hk

/-- A load that the cache does not hold. -/
structure Gone (k : Nat) (l : Loader) : Prop where
  begun : k < l.loads.length
  held : l.held? ≠ some k

namespace Gone

variable {k : Nat} {l : Loader}

/-- The failure of a load puts nothing into the cache. -/
theorem reject (h : l.Gone k) (j : Nat) (message : String) : (l.reject j message).Gone k := by
  unfold Loader.reject
  split
  · refine ⟨by simpa [setStatus] using h.begun, ?_⟩
    show Option.map Entry.load (l.memo.fail _).entry ≠ some k
    unfold Memo.fail
    split
    · simp
    · exact h.held
  · exact h

/-- The load that a get begins is new. -/
theorem get (h : l.Gone k) : l.get.Gone k := by
  cases hf : l.fresh? with
  | some j =>
    rw [get_of_fresh hf]
    exact ⟨h.begun, h.held⟩
  | none =>
    have hbegun := begun_obtain (l.behaviours.headD .waits) hf
    obtain ⟨next, late, hsame, hmemo, -, hget⟩ := get_cases hf
    have hlt := h.begun
    have hnext : next.Gone k := by
      refine ⟨?_, ?_⟩
      · rw [hsame, hbegun.count]
        omega
      · unfold held?
        rw [hmemo, hbegun.entry]
        simp only [Option.map_some, ne_eq, Option.some.injEq]
        omega
    rw [hget]
    exact rejectAll_induct late hnext fun _ j message h => h.reject j message

theorem step (h : l.Gone k) (e : Event) : (l.step e).Gone k := by
  cases e with
  | get => exact h.get
  | invalidate => exact ⟨h.begun, by simp [Loader.step, invalidate, held?, Memo.invalidate]⟩
  | advance ms => exact ⟨h.begun, h.held⟩
  | expect behaviours => exact ⟨h.begun, h.held⟩
  | resolve j v =>
    show (l.resolve j v).Gone k
    unfold Loader.resolve
    split
    · exact ⟨by simpa [setStatus] using h.begun, h.held⟩
    · exact h
  | reject j message => exact h.reject j message

theorem run (h : l.Gone k) (events : List Event) : (l.run events).Gone k := by
  induction events generalizing l with
  | nil => exact h
  | cons e rest ih => exact ih (h.step e)

/-- A load that the cache does not hold is not given. -/
theorem not_given (h : l.Gone k) : l.given? ≠ some k := by
  rw [Ne, given?_eq_some_iff h.begun]
  exact fun hf => h.held (held?_of_fresh? hf)

end Gone

/-! ## 5. Main statement -/

/-- What is offered after a failure was offered before. -/
theorem fresh?_of_reject {l : Loader} {j k : Nat} {message : String}
    (h : (l.reject j message).fresh? = some k) : l.fresh? = some k := by
  unfold reject at h
  split at h
  · rename_i generation hload
    have hfail : (l.memo.fail generation).fresh? l.limit l.clock = some k := h
    unfold Memo.fail at hfail
    split at hfail
    · cases hfail
    · exact hfail
  · exact h

/-- A load that is offered, and began with a behaviour that does not keep to itself, is
offered when it has failed. -/
theorem Sound.fresh?_reject {ms : List Behaviour} {l : Loader} (h : l.Sound ms) {k : Nat}
    {b : Behaviour} (hb : ms[k]? = some b) (hloose : b.isPlain = false) (hk : l.fresh? = some k)
    (message : String) : (l.reject k message).fresh? = some k := by
  obtain ⟨e, he, rfl⟩ := Option.map_eq_some_iff.mp (held?_of_fresh? hk)
  obtain ⟨b', x, hb', hx, hiff⟩ := h.entry e he
  obtain rfl : b' = b := Option.some.inj (hb'.symm.trans hb)
  unfold Loader.reject
  split
  · rename_i generation hload
    obtain rfl := Option.some.inj (hload.symm.trans hx)
    have hne : generation ≠ l.memo.generation := by
      intro hg
      rw [hiff.mpr ⟨hg, rfl⟩] at hloose
      cases hloose
    show Memo.fresh? l.limit l.clock (l.memo.fail generation) = _
    rw [Memo.fail_of_ne hne]
    exact hk
  · exact hk

/-- The cache does not hold a load that has failed and began with a behaviour that keeps to
itself. -/
theorem Sound.gone_of_failed {ms : List Behaviour} {l : Loader} (h : l.Sound ms) {k : Nat}
    {b : Behaviour} (hb : ms[k]? = some b) (hplain : b.isPlain = true) (hfailed : l.Failed k) :
    l.Gone k := by
  obtain ⟨y, hy, hyfailed⟩ := hfailed
  refine ⟨(List.getElem?_eq_some_iff.mp hy).1, fun hheld => ?_⟩
  obtain ⟨e, he, rfl⟩ := Option.map_eq_some_iff.mp hheld
  obtain ⟨b', x, hb', hx, hiff⟩ := h.entry e he
  obtain rfl : b' = b := Option.some.inj (hb'.symm.trans hb)
  obtain rfl : y = x := Option.some.inj (hy.symm.trans hx)
  -- it has failed, so its failure would clear nothing
  have hclears := (hiff.mp hplain).2
  rw [hyfailed] at hclears
  cases hclears

/-- A load that has failed is given by the next get exactly if it was to be given before
it failed and began with a behaviour that does not keep to itself: it threw while it was
called, or made the cache forget, or got from it. A load that keeps to itself is never
given again when it has failed, and neither is a load that the cache did not hold then. -/
theorem failed_given_iff (limit : Option Float) (clock : Float) {events : List Event} {k : Nat}
    {b : Behaviour} (hb : ((start limit clock).manners events)[k]? = some b) {message : String}
    {l l' : Loader} (hl : (start limit clock).run events = l) (hl' : l.reject k message = l')
    (hfailed : l'.Failed k) :
    (l'.given? = some k ↔ b.isPlain = false ∧ l.given? = some k) ∧
    (b.isPlain = true ∨ l.held? ≠ some k → ∀ later, (l'.run later).given? ≠ some k) := by
  have hsound : l.Sound ((start limit clock).manners events) :=
    hl ▸ (sound_start limit clock).run events
  have hsound' : l'.Sound ((start limit clock).manners events) := hl' ▸ hsound.reject k message
  have hlt : k < l.loads.length := by
    rw [hsound.count]
    exact (List.getElem?_eq_some_iff.mp hb).1
  have hlt' : k < l'.loads.length := by
    rw [hsound'.count, ← hsound.count]
    exact hlt
  have hgone : b.isPlain = true ∨ l.held? ≠ some k → l'.Gone k := by
    rintro (hplain | hheld)
    · exact hsound'.gone_of_failed hb hplain hfailed
    · exact hl' ▸ Gone.reject ⟨hlt, hheld⟩ k message
  refine ⟨?_, fun h later => ((hgone h).run later).not_given⟩
  rw [given?_eq_some_iff hlt, given?_eq_some_iff hlt']
  constructor
  · intro hgiven
    refine ⟨?_, fresh?_of_reject (hl' ▸ hgiven)⟩
    cases hplain : b.isPlain with
    | false => rfl
    | true => exact absurd (held?_of_fresh? hgiven) (hgone (.inl hplain)).held
  · rintro ⟨hloose, hoffered⟩
    exact hl' ▸ hsound.fresh?_reject hb hloose hoffered message

/-- What a first get leaves whose load begins with a behaviour. -/
def firstGet (b : Behaviour) : Loader := (start none 1000).run [.expect [b], .get]

/-- A load that makes the cache forget is given again when it has failed. -/
theorem failed_given_forgetful :
    let forgetful : Behaviour := .invalidates .waits
    ((start none 1000).manners [.expect [forgetful], .get])[0]? = some forgetful ∧
    ((firstGet forgetful).reject 0 "refused").Failed 0 ∧
    ((firstGet forgetful).reject 0 "refused").given? = some 0 := by
  intro forgetful
  have hb : ((start none 1000).manners [.expect [forgetful], .get])[0]? = some forgetful := rfl
  have hfailed : ((firstGet forgetful).reject 0 "refused").Failed 0 := ⟨_, rfl, rfl⟩
  obtain ⟨hiff, -⟩ := failed_given_iff none 1000 hb rfl rfl hfailed
  exact ⟨hb, hfailed, hiff.mpr ⟨rfl, rfl⟩⟩

/-- A load that has thrown is given by the next get, which begins no other. So is a load
that has made the cache forget, or has got from it, and fails then; and one that does all
three. -/
theorem failed_load_kept :
    ((firstGet (.throws "refused")).Failed 0 ∧ (firstGet (.throws "refused")).given? = some 0 ∧
      (firstGet (.throws "refused")).get.loads.length = 1) ∧
    (((firstGet (.invalidates .waits)).reject 0 "refused").Failed 0 ∧
      ((firstGet (.invalidates .waits)).reject 0 "refused").given? = some 0 ∧
      ((firstGet (.invalidates .waits)).reject 0 "refused").get.loads.length = 1) ∧
    (((firstGet (.gets .waits .waits)).reject 0 "refused").Failed 0 ∧
      ((firstGet (.gets .waits .waits)).reject 0 "refused").given? = some 0 ∧
      ((firstGet (.gets .waits .waits)).reject 0 "refused").get.loads.length = 2) ∧
    (firstGet (.gets .waits (.invalidates (.throws "refused")))).Failed 0 ∧
      (firstGet (.gets .waits (.invalidates (.throws "refused")))).given? = some 0 ∧
      (firstGet (.gets .waits (.invalidates (.throws "refused")))).get.loads.length = 2 :=
  ⟨⟨⟨_, rfl, rfl⟩, rfl, rfl⟩, ⟨⟨_, rfl, rfl⟩, rfl, rfl⟩, ⟨⟨_, rfl, rfl⟩, rfl, rfl⟩,
    ⟨_, rfl, rfl⟩, rfl, rfl⟩

end Loader

end MagnumClient.Cache
