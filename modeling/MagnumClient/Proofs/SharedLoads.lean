/-
MagnumClient.Proofs.SharedLoads — when callers share a load that is in flight.

A cache gives a load that is in flight to everyone who asks, but only while it offers
that load at all: the load has to be the latest, and must not have been held for as long
as loads may be. Its age counts from its beginning. So a load that takes longer than
loads may be held is given up while it is in flight, and the next get begins another
beside it.

`Past.era` lists the loads that have begun since the cache was last told to forget, and
`Past.inFlight` those of them that have still to settle. The invariant is
`Chronicle.Paced`: a load of an era begins only when the one before it has failed, or has
been held for as long as loads may be. So of the loads in flight all but the latest were
given up for their age, and without an expiration there is at most one.

As in `Proofs.Chronicle`, all loads keep to themselves.
-/
import MagnumClient.Proofs.Chronicle
import Mathlib.Data.List.Chain
import Mathlib.Data.List.Nodup

namespace MagnumClient.Cache

/-! ## 1. The loads of an era -/

/-- A load that has still to settle has not failed. -/
theorem Status.isFailed_of_isPending {s : Status} (h : s.isPending = true) :
    s.isFailed = false := by
  cases s <;> first | rfl | cases h

namespace Past

/-- The loads that have begun since the cache was last told to forget, and when they
began, the newest first. -/
def era : Past → List (Nat × Float)
  | [] => []
  | .began since :: past => (begun past, since) :: era past
  | .forgot :: _ => []
  | _ :: past => era past

/-- Those of them that have still to settle. -/
def inFlight (past : Past) : List (Nat × Float) :=
  past.era.filter fun x => (past.status x.1).isPending

/-- Why a load may begin behind another: the other has failed, or has been held for as
long as loads may be. -/
def Replaces (limit : Option Float) (past : Past) (next before : Nat × Float) : Prop :=
  (past.status before.1).isFailed = true ∨ reached limit before.2 next.2 = true

/-- The latest load is the newest of its era. -/
theorem latest?_eq (past : Past) : past.latest? = past.era.head? := by
  induction past with
  | nil => rfl
  | cons d past ih => cases d <;> first | rfl | exact ih

theorem lt_begun {past : Past} {k : Nat} (h : k ∈ past.era.map Prod.fst) : k < past.begun := by
  induction past with
  | nil => cases h
  | cons d past ih =>
    cases d with
    | began since =>
      rcases List.mem_cons.mp h with rfl | h
      · exact Nat.lt_succ_self _
      · exact Nat.lt_succ_of_lt (ih h)
    | forgot => cases h
    | _ => exact ih h

/-- A load begins once. -/
theorem nodup_era (past : Past) : (past.era.map Prod.fst).Nodup := by
  induction past with
  | nil => exact .nil
  | cons d past ih =>
    cases d with
    | began since =>
      exact List.nodup_cons.mpr ⟨fun h => Nat.lt_irrefl _ (lt_begun h), ih⟩
    | forgot => exact .nil
    | _ => exact ih

/-- What a get is given without a new load, spelled out. -/
theorem current?_eq_some_iff {limit : Option Float} {now : Float} {past : Past} {k : Nat} :
    past.current? limit now = some k ↔
      ∃ since, past.latest? = some (k, since) ∧ (past.status k).isFailed = false ∧
        reached limit since now = false := by
  unfold current?
  rcases past.latest? with _ | ⟨j, since⟩
  · simp
  · dsimp only
    constructor
    · intro h
      split at h
      · cases h
      · rename_i hkept
        obtain rfl := Option.some.inj h
        obtain ⟨hf, hr⟩ := Bool.or_eq_false_iff.mp (Bool.eq_false_iff.mpr hkept)
        exact ⟨since, rfl, hf, hr⟩
    · rintro ⟨since, ⟨⟩, hf, hr⟩
      simp [hf, hr]

/-- A load in flight is given iff it is the latest and has not been held for too long. -/
theorem current?_iff_of_mem_inFlight {limit : Option Float} {now : Float} {past : Past} {k : Nat}
    {since : Float} (h : (k, since) ∈ past.inFlight) :
    past.current? limit now = some k ↔
      past.latest? = some (k, since) ∧ reached limit since now = false := by
  obtain ⟨hmem, hpending⟩ := List.mem_filter.mp h
  rw [current?_eq_some_iff]
  constructor
  · rintro ⟨began, hlatest, -, hyoung⟩
    have hera : (k, began) ∈ past.era := by
      rw [latest?_eq] at hlatest
      exact List.mem_of_mem_head? hlatest
    -- a load begins once, so it began then
    have hsame := List.inj_on_of_nodup_map past.nodup_era hera hmem rfl
    obtain rfl : began = since := congrArg Prod.snd hsame
    exact ⟨hlatest, hyoung⟩
  · rintro ⟨hlatest, hyoung⟩
    exact ⟨since, hlatest, Status.isFailed_of_isPending hpending, hyoung⟩

/-- Without one the latest load has failed, or has been held for as long as loads may
be. -/
theorem replaces_of_current?_eq_none {limit : Option Float} {now : Float} {past : Past}
    (h : past.current? limit now = none) {x : Nat × Float} (hx : past.latest? = some x)
    (k : Nat) : past.Replaces limit (k, now) x := by
  unfold current? at h
  rw [hx] at h
  dsimp only at h
  split at h
  · rename_i hgone
    exact Bool.or_eq_true_iff.mp hgone
  · cases h

end Past

/-! ## 2. What a run keeps -/

namespace Chronicle

/-- Every load of the era but the oldest began for a reason. -/
def Paced (limit : Option Float) (c : Chronicle) : Prop :=
  c.past.era.IsChain (c.past.Replaces limit)

theorem paced_start (limit : Option Float) (clock : Float) : (start clock).Paced limit :=
  List.IsChain.nil

theorem era_settle (c : Chronicle) {k : Nat} {d : Deed}
    (hd : Past.era (d :: c.past) = c.past.era) : (c.settle k d).past.era = c.past.era := by
  unfold settle
  split
  · exact hd
  · rfl

namespace Paced

variable {limit : Option Float} {c c' : Chronicle}

/-- A reason stays one while no load begins: what has failed stays so. -/
theorem mono (h : c.Paced limit) (he : c.Extends c') (hera : c'.past.era = c.past.era) :
    c'.Paced limit := by
  unfold Paced
  rw [hera]
  refine List.IsChain.imp (fun next before hr => ?_) h
  rcases hr with hfailed | hreached
  · refine .inl ?_
    have hsettled : (c.past.status before.1).isPending = false := by
      refine Bool.eq_false_iff.mpr fun hpending => ?_
      rw [Status.isFailed_of_isPending hpending] at hfailed
      cases hfailed
    rw [he.status _ hsettled]
    exact hfailed
  · exact .inr hreached

/-- A load begins behind the latest. -/
theorem begin (h : c.Paced limit) (hnone : c.past.current? limit c.clock = none) :
    c.begin.Paced limit := by
  refine List.isChain_cons.mpr ⟨fun x hx => ?_, h⟩
  have hlatest : c.past.latest? = some x := c.past.latest?_eq.trans hx
  exact Past.replaces_of_current?_eq_none hnone hlatest c.past.begun

theorem get (h : c.Paced limit) : (c.get limit).Paced limit := by
  unfold Chronicle.get
  cases hk : c.past.current? limit c.clock with
  | some k => exact h
  | none =>
    have hbegin := h.begin hk
    dsimp only
    split
    · exact hbegin.mono (Extends.settle _ rfl fun _ => rfl) (era_settle _ rfl)
    · exact hbegin.mono (Extends.settle _ rfl fun _ => rfl) (era_settle _ rfl)
    · exact hbegin

theorem step (h : c.Paced limit) (e : Loader.Event) : (c.step limit e).Paced limit := by
  cases e with
  | get => exact h.get
  | invalidate => exact .nil
  | advance ms => exact h
  | expect behaviours => exact h
  | resolve k v => exact h.mono (Extends.settle _ rfl fun _ => rfl) (era_settle c rfl)
  | reject k message => exact h.mono (Extends.settle _ rfl fun _ => rfl) (era_settle c rfl)

theorem run (h : c.Paced limit) (events : List Loader.Event) :
    (c.run limit events).Paced limit := by
  induction events generalizing c with
  | nil => exact h
  | cons e rest ih => exact ih (h.step e)

/-- A load in flight is the latest, or the one behind it began because it had been held
for as long as loads may be. -/
theorem latest_or_outlived (h : c.Paced limit) {x : Nat × Float} (hx : x ∈ c.past.inFlight) :
    c.past.latest? = some x ∨
      ∃ y, [y, x] <:+: c.past.era ∧ Past.reached limit x.2 y.2 = true := by
  obtain ⟨hmem, hpending⟩ := List.mem_filter.mp hx
  obtain ⟨newer, older, hera⟩ := List.append_of_mem hmem
  rcases List.eq_nil_or_concat newer with rfl | ⟨newer, y, rfl⟩
  · left
    rw [c.past.latest?_eq, hera]
    rfl
  · right
    have hinfix : [y, x] <:+: c.past.era := ⟨newer, older, by simp [hera]⟩
    have hpair := List.IsChain.infix h hinfix
    refine ⟨y, hinfix, (List.isChain_pair.mp hpair).resolve_left ?_⟩
    intro hfailed
    rw [Status.isFailed_of_isPending hpending] at hfailed
    cases hfailed

end Paced

end Chronicle

/-! ## 3. Main statement -/

/-- If no load of an era outlived its time before the next began, at most one is in
flight. -/
theorem Chronicle.Paced.length_inFlight_le {limit : Option Float} {c : Chronicle}
    (h : c.Paced limit)
    (hin : ∀ x y, [y, x] <:+: c.past.era → Past.reached limit x.2 y.2 = false) :
    c.past.inFlight.length ≤ 1 := by
  have hlatest : ∀ x ∈ c.past.inFlight, c.past.latest? = some x := by
    intro x hx
    refine (h.latest_or_outlived hx).resolve_right ?_
    rintro ⟨y, hinfix, hreached⟩
    rw [hin x y hinfix] at hreached
    cases hreached
  have hnodup : c.past.inFlight.Nodup := (List.Nodup.of_map _ c.past.nodup_era).filter _
  match hl : c.past.inFlight with
  | [] => exact Nat.zero_le _
  | [x] => exact Nat.le_refl _
  | x :: y :: rest =>
    rw [hl] at hlatest hnodup
    have hsame : x = y :=
      Option.some.inj ((hlatest x (by simp)).symm.trans (hlatest y (by simp)))
    rw [hsame] at hnodup
    simp at hnodup

namespace Loader

/-- A get begins no load and is given one iff that is there to be given. -/
theorem get_shares_iff {l : Loader} (hp : ∀ b ∈ l.behaviours, b.isPlain = true) {k : Nat} :
    l.get.loads = l.loads ∧ l.get.handed = l.handed ++ [k] ↔ l.fresh? = some k := by
  constructor
  · rintro ⟨hloads, hhanded⟩
    cases hf : l.fresh? with
    | none =>
      -- a get that begins a load has one more
      have hmore := (get_begins hf hp).1
      rw [hloads] at hmore
      omega
    | some j =>
      rw [get_of_fresh hf] at hhanded
      exact congrArg some (List.singleton_inj.mp (List.append_cancel_left hhanded))
  · intro hf
    rw [get_of_fresh hf]
    exact ⟨rfl, rfl⟩

/-- When a load in flight is shared. While a load has not settled that has begun since
the cache was last told to forget, a get is given it and begins none, exactly if the load
is the latest and has not been held, since it began, for as long as loads may be. Of the
loads in flight of one era, all but the latest were held for that long when the load
behind them began; so there is at most one unless that has happened, and without an
expiration it never has. -/
theorem in_flight_shared_iff (limit : Option Float) (clock : Float) {events : List Event}
    (hevents : ∀ e ∈ events, e.Plain) :
    let l := (start limit clock).run events
    let past := ((Chronicle.start clock).run limit events).past
    (∀ (k : Nat) (x : Load), l.loads[k]? = some x → x.status = past.status k) ∧
    (∀ k since, (k, since) ∈ past.inFlight →
      (l.get.loads = l.loads ∧ l.get.handed = l.handed ++ [k] ↔
        past.latest? = some (k, since) ∧ Past.reached limit since l.clock = false)) ∧
    (∀ x ∈ past.inFlight, past.latest? = some x ∨
      ∃ y, [y, x] <:+: past.era ∧ Past.reached limit x.2 y.2 = true) ∧
    ((∀ x y, [y, x] <:+: past.era → Past.reached limit x.2 y.2 = false) →
      past.inFlight.length ≤ 1) := by
  intro l past
  have h : l.Agrees limit ((Chronicle.start clock).run limit events) :=
    (agrees_start limit clock).run hevents
  have hfresh : l.fresh? = past.current? limit l.clock := h.clock ▸ h.fresh?
  have hpaced : ((Chronicle.start clock).run limit events).Paced limit :=
    (Chronicle.paced_start limit clock).run events
  refine ⟨h.status, ?_, fun x hx => hpaced.latest_or_outlived hx, hpaced.length_inFlight_le⟩
  intro k since hin
  rw [get_shares_iff (h.behaviours ▸ h.plain), hfresh, Past.current?_iff_of_mem_inFlight hin]

/-- A load that may be held for half a second is shared just before that. -/
theorem in_flight_shared_early :
    (∀ e ∈ [Event.get, .advance 499], e.Plain) ∧
    (0, 1000) ∈ ((Chronicle.start 1000).run (some 500) [.get, .advance 499]).past.inFlight ∧
    ((start (some 500) 1000).run [.get, .advance 499]).get.loads.length = 1 ∧
    ((start (some 500) 1000).run [.get, .advance 499]).get.handed = [0, 0] := by
  have hevents : ∀ e ∈ [Event.get, .advance 499], e.Plain := by simp [Event.Plain]
  have hin : (0, 1000) ∈
      ((Chronicle.start 1000).run (some 500) [.get, .advance 499]).past.inFlight := .head _
  have hyoung : Past.reached (some 500) 1000
      ((start (some 500) 1000).run [.get, .advance 499]).clock = false := by decide
  obtain ⟨hloads, hhanded⟩ :=
    ((in_flight_shared_iff (some 500) 1000 hevents).2.1 0 1000 hin).mpr ⟨rfl, hyoung⟩
  exact ⟨hevents, hin, congrArg List.length hloads, hhanded⟩

/-- It is not shared at the end of the half second. The next get begins another load,
and both are in flight. -/
theorem in_flight_beside_another :
    (0, 1000) ∈ ((Chronicle.start 1000).run (some 500) [.get, .advance 500]).past.inFlight ∧
    ((start (some 500) 1000).run [.get, .advance 500]).get.handed = [0, 1] ∧
    ((start (some 500) 1000).run [.get, .advance 500]).get.loads.length = 2 ∧
    ((Chronicle.start 1000).run (some 500) [.get, .advance 500, .get]).past.inFlight.map
      Prod.fst = [1, 0] :=
  ⟨.head _, by decide, by decide, by decide⟩

end Loader

end MagnumClient.Cache
