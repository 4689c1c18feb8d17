/-
MagnumClient.Proofs.Traffic — what a session with a cloud sends, and where to.

A command sends what it takes to read the listing that it misses, and behind that its own
requests (`Session.exists_listed_own`). The first page of a collection and all own requests
are at the endpoint that the cloud was set up with. Every further page is where the link on
the page before it says, and that is anywhere: nothing compares it with the endpoint, and
the token goes along (`Session.token_sent_elsewhere`).

`Session.requests_at_endpoint_or_link` is what holds instead, for a request at any place
in the traffic of any session.
-/
import MagnumClient.Proofs.Equipment
import MagnumClient.Proofs.Origin
import MagnumClient.Proofs.Paging

namespace MagnumClient

open Cloud (State)
open ContainerInfra

namespace Session

/-! ## 1. Sessions with a cloud -/

/-- A step for the cloud, or time that passes. -/
def Step.forCloud : Step → Bool
  | .command c _ => c.forCloud
  | .advance _ => true

/-- What is for the cloud leaves the client as requests see it. -/
theorem face_perform {c : Command} (hc : c.forCloud = true) (s : Session) :
    (s.perform c).2.state.client.face = s.state.client.face := by
  cases hcall : s.call? c with
  | some call =>
    rw [perform_of_call hcall]
    exact Cloud.face_run call s.state
  | none =>
    rw [perform_of_none hcall]
    cases c <;> first | rfl | cases hc

theorem face_play (steps : List Step) (s : Session) (h : ∀ x ∈ steps, x.forCloud = true) :
    (s.play steps).state.client.face = s.state.client.face := by
  induction steps generalizing s with
  | nil => rfl
  | cons x xs ih =>
    refine (ih (s.step x) fun y hy => h y (List.mem_cons_of_mem x hy)).trans ?_
    have hx := h x List.mem_cons_self
    cases x with
    | advance ms => rfl
    | command c replies => exact face_perform hx (s.fresh replies)

/-- The endpoint of a cloud is the one that it was set up with. -/
theorem baseOf_play (settings : Settings) (strict : Bool) (place : Json)
    (cacheExpiration : Option Float) (clock : Float) {steps : List Step}
    (h : ∀ x ∈ steps, x.forCloud = true) :
    ((start settings strict place cacheExpiration clock).play steps).state.baseOf containerInfra =
      .ok settings.endpoint :=
  (State.baseOf_congr (face_play steps _ h) containerInfra).trans rfl

/-! ## 2. What a command sends -/

/-- A command needs the listing of a kind, and the cache does not give it. -/
def Misses (kind : Kind) (c : Command) (s : Session) : Prop :=
  c.asks kind = true ∧ (c.ready kind s.state).fresh? kind = none

/-- A command asks for one listing at most. -/
theorem asks_unique {kind other : Kind} {c : Command} (h : c.asks kind = true)
    (h' : c.asks other = true) : kind = other := by
  cases c with
  | cloud op => cases op <;> simp_all [Command.asks, Cloud.Operation.asks]
  | normalizedClusters => simp_all [Command.asks]
  | _ => cases h

/-- What a command sends after it has asked for a listing are its own requests. -/
theorem sent_after_asked {kind : Kind} {c : Command} {s : Session} {base : String}
    (hasks : c.asks kind = true) (hbase : (c.asked kind s.state).baseOf containerInfra = .ok base) :
    ∃ own, (s.perform c).2.state.sent = (c.asked kind s.state).sent ++ own ∧
      ∀ r ∈ own, State.OwnRequest base r := by
  obtain ⟨next, hown, -, hperform⟩ := s.perform_of_asks hasks
  rw [hperform]
  exact State.run_own (hown _) hbase

/-- A listing that is in the cache is asked for without a request. -/
theorem traffic_asked_of_hit {kind : Kind} {c : Command} {s : Session} (hasks : c.asks kind = true)
    (hhit : ¬ s.Misses kind c) : State.SameTraffic s.state (c.asked kind s.state) := by
  obtain ⟨flight, hflight⟩ := Option.ne_none_iff_exists'.mp fun hstale => hhit ⟨hasks, hstale⟩
  rw [Command.asked_of_asks hasks, State.listing_of_fresh hflight]
  exact traffic_ready kind c s.state

/-- A command that asks for no listing sends its own requests only. -/
theorem sent_of_not_asks {c : Command} (hc : c.forCloud = true) (h : ∀ kind, c.asks kind = false)
    {s : Session} {base : String} (hbase : s.state.baseOf containerInfra = .ok base) :
    ∃ own, (s.perform c).2.state.sent = s.state.sent ++ own ∧
      ∀ r ∈ own, State.OwnRequest base r := by
  cases hcall : s.call? c with
  | some call =>
    rw [perform_of_call hcall]
    exact State.run_own (own_of_not_asks hcall hc h) hbase
  | none =>
    rw [perform_of_none hcall]
    refine ⟨[], ?_, by simp⟩
    rw [List.append_nil]
    cases c <;> first | rfl | cases hc

/-- A command sends what it takes to read the listing that it misses, and behind that
its own requests. -/
theorem exists_listed_own {c : Command} (hc : c.forCloud = true) (s : Session) {base : String}
    (hbase : s.state.baseOf containerInfra = .ok base) :
    ∃ listed own, (s.perform c).2.state.sent = s.state.sent ++ listed ++ own ∧
      (∀ r ∈ own, State.OwnRequest base r) ∧
      (∀ kind, s.Misses kind c →
        ∃ pages last, Reading kind base (s.state.replyTo .get) none listed pages last ∧
          (s.state.collect kind).1 = readLast kind (pages.flatMap (itemsRead kind)) last) ∧
      ((∀ kind, ¬ s.Misses kind c) → listed = []) ∧
      ∀ kind, c.asks kind = true → (c.asked kind s.state).sent = s.state.sent ++ listed := by
  by_cases hmisses : ∃ kind, s.Misses kind c
  · obtain ⟨kind, hasks, hstale⟩ := hmisses
    obtain ⟨-, htraffic⟩ := listing_of_asks hstale
    obtain ⟨listed, pages, last, hread, hframe, hresult⟩ := State.collect_reading kind hbase
    rw [← Command.asked_of_asks hasks] at htraffic
    have hasked : (c.asked kind s.state).sent = s.state.sent ++ listed :=
      htraffic.sent.trans hframe.sent
    obtain ⟨own, hsent, hall⟩ :=
      sent_after_asked hasks ((htraffic.baseOf _).trans ((hframe.baseOf _).trans hbase))
    refine ⟨listed, own, by rw [hsent, hasked], hall, ?_,
      fun hno => absurd ⟨hasks, hstale⟩ (hno kind), ?_⟩
    · rintro other ⟨hother, -⟩
      obtain rfl := asks_unique hasks hother
      exact ⟨pages, last, hread, hresult⟩
    · intro other hother
      obtain rfl := asks_unique hasks hother
      exact hasked
  · have hno : ∀ kind, ¬ s.Misses kind c := fun kind h => hmisses ⟨kind, h⟩
    have hasked : ∀ kind, c.asks kind = true → (c.asked kind s.state).sent = s.state.sent :=
      fun kind h => (traffic_asked_of_hit h (hno kind)).sent
    obtain ⟨own, hsent, hall⟩ : ∃ own, (s.perform c).2.state.sent = s.state.sent ++ own ∧
        ∀ r ∈ own, State.OwnRequest base r := by
      by_cases hasks : ∃ kind, c.asks kind = true
      · obtain ⟨kind, hasks⟩ := hasks
        have htraffic := traffic_asked_of_hit hasks (hno kind)
        rw [← htraffic.sent]
        exact sent_after_asked hasks ((htraffic.baseOf _).trans hbase)
      · exact sent_of_not_asks hc (by simpa using hasks) hbase
    refine ⟨[], own, by rw [hsent, List.append_nil], hall, fun kind h => absurd h (hno kind),
      fun _ => rfl, ?_⟩
    rwa [List.append_nil]

/-! ## 3. Where requests go -/

/-- An own request goes where the endpoint points. -/
theorem origin_of_ownRequest {base : String} {r : Request} {u : Url} {last : Char}
    (hr : State.OwnRequest base r) (hbase : Url.parse? base = some u)
    (hspecial : Url.isSpecial u.scheme = true) (hlast : base.toList.getLast? = some last)
    (hmargin : Url.isMargin last = false) : Url.parse? r.url = some u := by
  obtain ⟨ask, hown, hans⟩ := hr
  obtain ⟨path, hplace⟩ := hown.place
  rw [hans.url, hplace]
  exact Url.parse?_join hbase hspecial hlast hmargin (by simp)

/-- A request goes on with a listing after another: it follows the link on the page
that the other was answered with. -/
def FollowsLink (replies : Nat → Reply) (sent : List Request) (i : Nat) (r : Request) : Prop :=
  ∃ j kind previous body link, i = j + 1 ∧ sent[j]? = some previous ∧
    pageOutcome kind previous (replies j) = .ok body ∧ linkAfter body = some link ∧
    r.method = .get ∧ r.url = Path.join [link, .segment ""]

/-- Every request of a session with a cloud goes where the endpoint points, to the
same scheme, host and port, or follows the link on the page that was read right
before it. -/
theorem requests_at_endpoint_or_link (settings : Settings) (strict : Bool) (place : Json)
    (cacheExpiration : Option Float) (clock : Float) {u : Url} {last : Char}
    (hendpoint : Url.parse? settings.endpoint = some u) (hspecial : Url.isSpecial u.scheme = true)
    (hlast : settings.endpoint.toList.getLast? = some last) (hmargin : Url.isMargin last = false)
    (before : List Step) (hbefore : ∀ x ∈ before, x.forCloud = true)
    (c : Command) (hc : c.forCloud = true) (replies : List Prepared) {t : Session}
    (ht : ((start settings strict place cacheExpiration clock).play before).fresh replies = t)
    {i : Nat} {r : Request} (hr : (t.perform c).2.state.sent[i]? = some r) :
    Url.parse? r.url = some u ∨
      FollowsLink (t.state.replyTo .get) (t.perform c).2.state.sent i r := by
  have hbase : t.state.baseOf containerInfra = .ok settings.endpoint := by
    rw [← ht, baseOf_fresh]
    exact baseOf_play settings strict place cacheExpiration clock hbefore
  have hnone : t.state.sent = [] := by
    rw [← ht]
    rfl
  obtain ⟨listed, own, hsent, hown, hread, hquiet, -⟩ := exists_listed_own hc t hbase
  rw [hnone, List.nil_append] at hsent
  rw [hsent] at hr ⊢
  rcases Nat.lt_or_ge i listed.length with hi | hi
  · -- a request for a page of the listing, which was missed
    rw [List.getElem?_append_left hi] at hr
    have hmisses : ∃ kind, t.Misses kind c := by
      refine Classical.byContradiction fun hno => ?_
      rw [hquiet fun kind h => hno ⟨kind, h⟩] at hi
      exact absurd hi (Nat.not_lt_zero _)
    obtain ⟨kind, hmisses⟩ := hmisses
    obtain ⟨pages, final, hread, -⟩ := hread kind hmisses
    rcases hread.request_cases hr with ⟨-, hurl⟩ | ⟨j, previous, body, link, rfl, hj, hbody, h⟩
    · rw [hurl]
      exact .inl (Url.parse?_join hendpoint hspecial hlast hmargin (by cases kind <;> decide))
    · refine .inr ⟨j, kind, previous, body, link, rfl, ?_, hbody, h⟩
      rw [List.getElem?_append_left (Nat.lt_of_succ_lt hi)]
      exact hj
  · rw [List.getElem?_append_right hi] at hr
    exact .inl (origin_of_ownRequest (hown r (List.mem_of_getElem? hr)) hendpoint hspecial hlast
      hmargin)

/-- A session with a cloud at an endpoint. -/
def cloudAt (endpoint : String) : Session :=
  start ⟨endpoint, "token", "latest", 5000⟩ false .null none 0

/-- A page of clusters with a link to another, and what comes there. -/
def linkedPages (link : String) : List Prepared :=
  [⟨none, .answer ⟨200, "", some (.obj [("clusters", .arr []), ("next", .str link)]), []⟩⟩,
    ⟨none, .answer ⟨200, "", some (.obj []), []⟩⟩]

/-- The clusters are listed first where the endpoint points, and then where the link on the page
points, which is elsewhere. -/
theorem first_at_endpoint_then_link :
    let listing := ((cloudAt "https://[::1]:9511/v1").fresh
      (linkedPages "https://[::2]/v1/clusters"))
    let listed := (listing.perform (.cloud (.list .cluster))).2.state.sent
    (∃ u, Url.parse? "https://[::1]:9511/v1" = some u ∧ Url.isSpecial u.scheme = true) ∧
    ("https://[::1]:9511/v1".toList.getLast? = some '1' ∧ Url.isMargin '1' = false) ∧
    (∃ r, listed[0]? = some r ∧ Url.parse? r.url = Url.parse? "https://[::1]:9511/v1") ∧
    ∃ r, listed[1]? = some r ∧ Url.parse? r.url ≠ Url.parse? "https://[::1]:9511/v1" ∧
      FollowsLink (listing.state.replyTo .get) listed 1 r := by
  intro listing listed
  have hendpoint : Url.parse? "https://[::1]:9511/v1" =
      some ⟨"https", some (.ipv6 [0, 0, 0, 0, 0, 0, 0, 1]), some 9511⟩ := by decide +kernel
  have hlast : "https://[::1]:9511/v1".toList.getLast? = some '1' := by decide +kernel
  have hrequests {i : Nat} {r : Request} (hr : listed[i]? = some r) :=
    requests_at_endpoint_or_link ⟨"https://[::1]:9511/v1", "token", "latest", 5000⟩ false .null
      none 0 hendpoint (by decide) hlast (by decide) [] (by simp) (.cloud (.list .cluster)) rfl
      (linkedPages "https://[::2]/v1/clusters") rfl hr
  obtain ⟨first, hfirst⟩ : ∃ r, listed[0]? = some r := ⟨_, rfl⟩
  obtain ⟨second, hsecond, helsewhere⟩ : ∃ r, listed[1]? = some r ∧
      Url.parse? r.url ≠ Url.parse? "https://[::1]:9511/v1" := ⟨_, rfl, by decide +kernel⟩
  refine ⟨⟨_, hendpoint, by decide⟩, ⟨hlast, by decide⟩, ⟨first, hfirst, ?_⟩,
    ⟨second, hsecond, helsewhere, ?_⟩⟩
  · rw [hendpoint]
    rcases hrequests hfirst with h | ⟨j, -, -, -, -, hj, -⟩
    · exact h
    · cases hj
  · exact (hrequests hsecond).resolve_left fun h => helsewhere (h.trans hendpoint.symm)

/-- The token is sent to where a link points, and it is sent elsewhere if the endpoint
is of another scheme and ends in front of its server, or ends in a control. -/
theorem token_sent_elsewhere :
    (∃ r ∈ (((cloudAt "https://[::1]/v1").fresh (linkedPages "https://[::2]/v1/clusters")).perform
        (.cloud (.list .cluster))).2.state.sent,
      r.headers.get? tokenHeader = some "token" ∧
        Url.parse? r.url ≠ Url.parse? "https://[::1]/v1") ∧
    (∃ r ∈ (((cloudAt "magnum:").fresh []).perform (.cloud (.list .cluster))).2.state.sent,
      r.headers.get? tokenHeader = some "token" ∧ Url.parse? r.url ≠ Url.parse? "magnum:") ∧
    ∃ r ∈ (((cloudAt "https://[::1]\x01").fresh []).perform (.cloud (.list .cluster))).2.state.sent,
      r.headers.get? tokenHeader = some "token" ∧
        Url.parse? r.url ≠ Url.parse? "https://[::1]\x01" := by
  decide +kernel

end Session

end MagnumClient
