/-
MagnumClient.Proofs.Paging — listings of collections that come in pages.

Reading looks at the client and at the replies, and not at what is cached
(`SameTraffic`). So a command that has to read a listing sends the same requests
as reading the collection by itself, whatever it does before and afterwards.

`listing_whole_or_failed` is the main statement: a listing is the items of all
pages in their order, or it fails as a whole; and what has failed is not cached, so
the next listing begins at the first page again.
-/
import MagnumClient.Proofs.Reading

namespace MagnumClient

namespace Cloud.State

open ContainerInfra

/-! ## 1. What reading depends on -/

/-- The client, the replies to come and the requests sent are the same. -/
structure SameTraffic (s s' : State) : Prop where
  client : s'.client = s.client
  replies : s'.replies = s.replies
  sent : s'.sent = s.sent

namespace SameTraffic

variable {s s' s'' : State}

theorem refl (s : State) : SameTraffic s s := ⟨rfl, rfl, rfl⟩

theorem trans (h : SameTraffic s s') (h' : SameTraffic s' s'') : SameTraffic s s'' where
  client := h'.client.trans h.client
  replies := h'.replies.trans h.replies
  sent := h'.sent.trans h.sent

theorem baseOf (h : SameTraffic s s') (name : String) : s'.baseOf name = s.baseOf name :=
  baseOf_congr (congrArg Client.face h.client) name

theorem modifyMemo (kind : Kind) (f : Cache.Memo → Cache.Memo) (s : State) :
    SameTraffic s (s.modifyMemo kind f) := by
  cases kind <;> exact ⟨rfl, rfl, rfl⟩

theorem begin (kind : Kind) (s : State) : SameTraffic s (s.begin kind).2 := by
  cases kind <;> exact ⟨rfl, rfl, rfl⟩

theorem land (flight : Nat) (o : Except Failure (List Json)) (s : State) :
    SameTraffic s (s.land flight o) := by
  obtain ⟨kind, f, -, h⟩ := land_eq flight o s
  have hflights : ∀ flights, SameTraffic s { s with flights := flights } :=
    fun _ => ⟨rfl, rfl, rfl⟩
  rw [h]
  exact (hflights _).trans (modifyMemo kind f _)

theorem endpoint (h : SameTraffic s s') (i : Nat) :
    (s'.endpoint i).1 = (s.endpoint i).1 ∧ SameTraffic (s.endpoint i).2 (s'.endpoint i).2 := by
  unfold State.endpoint
  rw [h.client]
  cases s.client.services[i]? with
  | none => exact ⟨rfl, h⟩
  | some x =>
    cases hk : x.kept.isEmpty with
    | false => simpa [hk] using h
    | true =>
      simp only [hk, if_true, askEndpoint, gotEndpoint, h.client]
      exact ⟨trivial, rfl, h.replies, h.sent⟩

theorem endpointOf (h : SameTraffic s s') (name : String) :
    (s'.endpointOf name).1 = (s.endpointOf name).1 ∧
      SameTraffic (s.endpointOf name).2 (s'.endpointOf name).2 := by
  unfold State.endpointOf
  rw [h.client]
  cases s.client.find? name with
  | none => exact ⟨rfl, h⟩
  | some i => exact ⟨congrArg Except.ok (h.endpoint i).1, (h.endpoint i).2⟩

theorem receive (h : SameTraffic s s') (ask : Ask) (request : Request) (reply : Reply) :
    (s'.receive ask request reply).1 = (s.receive ask request reply).1 ∧
      SameTraffic (s.receive ask request reply).2 (s'.receive ask request reply).2 := by
  unfold State.receive
  cases outcome ask request reply with
  | ok data => exact ⟨rfl, h⟩
  | error f => exact ⟨rfl, h.client, h.replies, h.sent⟩

theorem exchangeAt (h : SameTraffic s s') (ask : Ask) (base : Path.Part) :
    (s'.exchangeAt ask base).1 = (s.exchangeAt ask base).1 ∧
      SameTraffic (s.exchangeAt ask base).2 (s'.exchangeAt ask base).2 := by
  unfold State.exchangeAt send
  rw [h.client, h.replies, h.sent]
  cases (s.client.find? ask.sender.service).bind fun i => s.client.services[i]? with
  | none => exact ⟨rfl, h⟩
  | some service =>
    cases takeReply ask.method s.replies with
    | none =>
      refine receive ?_ ask _ _
      exact ⟨rfl, rfl, rfl⟩
    | some taken =>
      refine receive ?_ ask _ _
      exact ⟨rfl, rfl, rfl⟩

theorem exchange (h : SameTraffic s s') (ask : Ask) :
    (s'.exchange ask).1 = (s.exchange ask).1 ∧
      SameTraffic (s.exchange ask).2 (s'.exchange ask).2 := by
  unfold State.exchange
  cases ask.base with
  | some base => exact h.exchangeAt ask base
  | none =>
    obtain ⟨hfirst, hrest⟩ := h.endpointOf ask.sender.service
    rcases he : s.endpointOf ask.sender.service with ⟨o, t⟩
    rcases he' : s'.endpointOf ask.sender.service with ⟨o', t'⟩
    rw [he, he'] at hfirst hrest
    obtain rfl : o' = o := hfirst
    cases o' with
    | error f => exact ⟨rfl, hrest⟩
    | ok e => exact hrest.exchangeAt ask _

theorem pages (h : SameTraffic s s') (count : Nat) (kind : Kind) (link : Option Path.Part)
    (items : List Json) :
    (s'.pages count kind link items).1 = (s.pages count kind link items).1 ∧
      SameTraffic (s.pages count kind link items).2 (s'.pages count kind link items).2 := by
  induction count generalizing s s' link items with
  | zero => exact ⟨rfl, h⟩
  | succ count ih =>
    obtain ⟨hfirst, hrest⟩ := h.exchange (pageAsk kind link)
    unfold State.pages
    rcases he : s.exchange (pageAsk kind link) with ⟨o, t⟩
    rcases he' : s'.exchange (pageAsk kind link) with ⟨o', t'⟩
    rw [he, he'] at hfirst hrest
    obtain rfl : o' = o := hfirst
    cases o' with
    | error f => exact ⟨rfl, hrest⟩
    | ok data =>
      cases hpage : readPage kind data with
      | error f => simpa only [hpage] using ⟨trivial, hrest⟩
      | ok page =>
        obtain ⟨more, next⟩ := page
        cases next with
        | none => simpa only [hpage] using ⟨trivial, hrest⟩
        | some next => simpa only [hpage] using ih hrest (some next) (items ++ more)

theorem collect (h : SameTraffic s s') (kind : Kind) :
    (s'.collect kind).1 = (s.collect kind).1 ∧
      SameTraffic (s.collect kind).2 (s'.collect kind).2 := by
  unfold State.collect
  rw [h.replies]
  exact h.pages ..

/-- A listing that is in no cache is read from the service. -/
theorem listing {kind : Kind} (h : SameTraffic s s') (hstale : s'.fresh? kind = none) :
    (s'.listing kind).1 = (s.collect kind).1 ∧
      SameTraffic (s.collect kind).2 (s'.listing kind).2 := by
  obtain ⟨hfirst, hrest⟩ := (h.trans (begin kind s')).collect kind
  rw [listing_eq hstale]
  exact ⟨hfirst, hrest.trans (land ..)⟩

end SameTraffic

end Cloud.State

/-! ## 2. Listings -/

namespace Session

open Cloud (State)
open ContainerInfra

/-- Whether a step asks for the cached listing of a kind. -/
def Step.asks (kind : Kind) : Step → Bool
  | .command c _ => c.asks kind
  | .advance _ => false

/-- What asks for no listing leaves a cache empty that is empty. -/
theorem entry_play_of_empty {kind : Kind} (steps : List Step) {s : Session}
    (hasks : ∀ x ∈ steps, x.asks kind = false) (hs : (s.state.memo kind).entry = none) :
    ((s.play steps).state.memo kind).entry = none := by
  induction steps generalizing s with
  | nil => exact hs
  | cons x xs ih =>
    refine ih (fun y hy => hasks y (List.mem_cons_of_mem x hy)) ?_
    cases x with
    | advance ms => cases kind <;> exact hs
    | command c replies =>
      have hc : c.asks kind = false := hasks _ List.mem_cons_self
      have hfresh : ((s.fresh replies).state.memo kind).entry = none := by cases kind <;> exact hs
      have hready : ((c.ready kind (s.fresh replies).state).memo kind).entry = none := by
        unfold Command.ready
        split
        · rw [State.memo_modifyMemo_self]
          rfl
        · exact hfresh
      refine (entry_perform kind c (s.fresh replies)).trans ?_
      rw [Command.asked, hc, if_neg Bool.false_ne_true, hready, ite_self]

theorem baseOf_fresh (replies : List Prepared) (s : Session) (name : String) :
    (s.fresh replies).state.baseOf name = s.state.baseOf name := by
  have hface : (s.fresh replies).state.client.face = s.state.client.face := rfl
  exact State.baseOf_congr hface name

theorem exists_sent_run (c : Call) (s : State) :
    ∃ more, (Cloud.run c s).2.sent = s.sent ++ more := by
  induction c generalizing s with
  | done o => exact ⟨[], (List.append_nil _).symm⟩
  | exchange ask next ih =>
    obtain ⟨added, hf, -⟩ := State.exchange_frame ask s
    obtain ⟨more, hmore⟩ := ih (s.exchange ask).1 (s.exchange ask).2
    exact ⟨added ++ more, by rw [Cloud.run, hmore, hf.sent, List.append_assoc]⟩
  | collect kind next ih =>
    obtain ⟨gets, hf, -⟩ := State.collect_frame kind s
    obtain ⟨more, hmore⟩ := ih (s.collect kind).1 (s.collect kind).2
    exact ⟨gets ++ more, by rw [Cloud.run, hmore, hf.sent, List.append_assoc]⟩
  | listing kind next ih =>
    obtain ⟨gets, hsent, -⟩ := State.listing_frame kind s
    obtain ⟨more, hmore⟩ := ih (s.listing kind).1 (s.listing kind).2
    exact ⟨gets ++ more, by rw [Cloud.run, hmore, hsent, List.append_assoc]⟩
  | forget kind next ih =>
    obtain ⟨more, hmore⟩ := ih (s.modifyMemo kind .invalidate)
    exact ⟨more, by rw [Cloud.run, hmore, State.sent_modifyMemo]⟩
  | note message next ih => exact ih _

/-- Forgetting before it asks is all that a command does, and that is no business of
requests. -/
theorem traffic_ready (kind : Kind) (c : Command) (s : State) :
    State.SameTraffic s (c.ready kind s) := by
  unfold Command.ready
  split
  · exact .modifyMemo ..
  · exact .refl _

section

variable {kind : Kind} {c : Command} {s : Session}

/-- A listing that a command asks for and that is in no cache is read from the
service. -/
theorem listing_of_asks (hstale : (c.ready kind s.state).fresh? kind = none) :
    ((c.ready kind s.state).listing kind).1 = (s.state.collect kind).1 ∧
      State.SameTraffic (s.state.collect kind).2 ((c.ready kind s.state).listing kind).2 :=
  (traffic_ready kind c s.state).listing hstale

/-- What reading the listing takes is sent first. If it fails, the command fails
with it, sends nothing more, and leaves nothing in the cache. -/
theorem perform_of_stale (hasks : c.asks kind = true)
    (hstale : (c.ready kind s.state).fresh? kind = none) :
    (∃ more, (s.perform c).2.state.sent = (s.state.collect kind).2.sent ++ more) ∧
    ∀ f, (s.state.collect kind).1 = .error f →
      (s.perform c).1 = .error f ∧
      (s.perform c).2.state.sent = (s.state.collect kind).2.sent ∧
      ((s.perform c).2.state.memo kind).entry = none := by
  obtain ⟨next, -, hfail, hperform⟩ := s.perform_of_asks hasks
  obtain ⟨hlisted, htraffic⟩ := listing_of_asks hstale
  rw [hperform, Command.asked_of_asks hasks, hlisted]
  constructor
  · obtain ⟨more, hmore⟩ := exists_sent_run (next (s.state.collect kind).1)
      ((c.ready kind s.state).listing kind).2
    exact ⟨more, by rw [hmore, htraffic.sent]⟩
  · intro f hf
    rw [hf, hfail]
    refine ⟨rfl, htraffic.sent, ?_⟩
    show (((c.ready kind s.state).listing kind).2.memo kind).entry = none
    rw [(State.listing_of_stale hstale).entry, hlisted, hf]
    rfl

end

/-- A session in which the next command that asks for the listing of a kind will
read it from the first page on, whatever else is done before. -/
def ReadsAnew (kind : Kind) (s : Session) : Prop :=
  ∀ between c later base, (∀ x ∈ between, Step.asks kind x = false) → c.asks kind = true →
    (s.play between).state.baseOf containerInfra = .ok base →
    ∃ request more,
      (((s.play between).fresh later).perform c).2.state.sent = request :: more ∧
      request.method = .get ∧ request.url = pageUrl base kind none

theorem readsAnew_of_empty {kind : Kind} {s : Session} (h : (s.state.memo kind).entry = none) :
    s.ReadsAnew kind := by
  intro between c later base hbetween hasks hbase
  have hempty := entry_play_of_empty between hbetween h
  generalize s.play between = t at hbase hempty
  have hstale : (c.ready kind (t.fresh later).state).fresh? kind = none := by
    unfold Command.ready
    split
    · exact State.fresh?_forget kind _
    · unfold State.fresh? Cache.Memo.fresh?
      rw [show ((t.fresh later).state.memo kind).entry = none by cases kind <;> exact hempty]
  have hbase' : (t.fresh later).state.baseOf containerInfra = .ok base :=
    (baseOf_fresh later t _).trans hbase
  obtain ⟨more, hmore⟩ := (perform_of_stale hasks hstale).1
  obtain ⟨requests, pages, last, hread, hframe, -⟩ := State.collect_reading kind hbase'
  have htargets := hread.targets
  rw [hframe.sent] at hmore
  cases requests with
  | nil => cases htargets
  | cons request rest =>
    rw [List.map_cons, List.map_cons, List.cons.injEq, Prod.mk.injEq] at htargets
    exact ⟨request, rest ++ more, hmore, htargets.1⟩

/-- A listing is the items of all pages in their order, or it fails as a whole. The
requests for it follow the links from the first page on and end at the first page
without one. If one of them fails, nothing more is sent, nothing is cached, and
the next listing begins again at the first page. -/
theorem listing_whole_or_failed (s : Session) (kind : Kind) (replies : List Prepared)
    {base : String} (hbase : s.state.baseOf containerInfra = .ok base)
    (hlegible : ∀ i request body,
      pageOutcome kind request ((s.fresh replies).state.replyTo .get i) = .ok body →
        Legible kind body) :
    ∃ requests pages last,
      Reading kind base ((s.fresh replies).state.replyTo .get) none requests pages last ∧
      (∀ body ∈ pages, linkAfter body ≠ none) ∧
      (∀ body, last = .ok body → linkAfter body = none) ∧
      (∀ o t, (s.fresh replies).perform (.service (.list kind)) = (o, t) →
        o = (whole kind pages last).map (fun items => some (.arr items)) ∧
          t.state.sent = requests) ∧
      ∀ (c : Command) o t, (s.fresh replies).perform c = (o, t) → c.asks kind = true →
        (c.ready kind (s.fresh replies).state).fresh? kind = none →
        (∃ more, t.state.sent = requests ++ more) ∧
        (∀ r : Cloud.Read, c = .cloud (r.operation kind) →
          o = r.answer kind (whole kind pages last) ∧ t.state.sent = requests) ∧
        ∀ f, last = .error f →
          o = .error f ∧ t.state.sent = requests ∧ (t.state.memo kind).entry = none ∧
            t.ReadsAnew kind := by
  have hbase' : (s.fresh replies).state.baseOf containerInfra = .ok base :=
    (baseOf_fresh replies s _).trans hbase
  obtain ⟨requests, pages, last, hread, hframe, hresult⟩ := State.collect_reading kind hbase'
  obtain ⟨hpages, hlast⟩ := hread.legible hlegible
  obtain ⟨hlinked, hends, hwhole⟩ := hread.of_legible hpages hlast
  have hsent : ((s.fresh replies).state.collect kind).2.sent = requests := hframe.sent
  rw [hwhole] at hresult
  refine ⟨requests, pages, last, hread, hlinked, hends, ?_, ?_⟩
  · intro o t hperform
    obtain ⟨rfl, rfl⟩ := Prod.ext_iff.mp hperform.symm
    show (Cloud.run (Call.andThen _ ((s.fresh replies).state.collect kind).1) _).1 = _ ∧
      (Cloud.run (Call.andThen _ ((s.fresh replies).state.collect kind).1) _).2.sent = _
    rw [hresult]
    cases whole kind pages last <;> exact ⟨rfl, hsent⟩
  · intro c o t hperform hasks hstale
    obtain ⟨rfl, rfl⟩ := Prod.ext_iff.mp hperform.symm
    obtain ⟨hmore, hfails⟩ := perform_of_stale hasks hstale
    rw [hsent] at hmore hfails
    refine ⟨hmore, ?_, fun f hf => ?_⟩
    · rintro r rfl
      have hready : Command.ready kind (.cloud (r.operation kind)) (s.fresh replies).state =
          (s.fresh replies).state := by cases r <;> rfl
      rw [hready] at hstale
      obtain ⟨hlisted, htraffic⟩ := (State.SameTraffic.refl _).listing hstale
      rw [perform_read]
      exact ⟨by rw [hlisted, hresult], htraffic.sent.trans hsent⟩
    · obtain ⟨ho, hsent', hempty⟩ := hfails f (by rw [hresult, hf]; rfl)
      exact ⟨ho, hsent', hempty, readsAnew_of_empty hempty⟩

/-- A page of clusters that has another after it. -/
def linkedPage : Response where
  status := 200
  statusText := ""
  data := some (.obj [("clusters", .arr [Cloud.web]),
    ("next", .str "https://magnum.test/v1/clusters?marker=c-1")])
  headers := []

/-- A refusal. -/
def unavailable : Response := ⟨503, "", none, []⟩

/-- A page of clusters, and a refusal in place of the next. -/
def brokenPages : List Prepared := [⟨none, .answer linkedPage⟩, ⟨none, .answer unavailable⟩]

/-- Where the second page is refused, the clusters of the first are neither listed
nor cached. -/
theorem list_broken_pages :
    (keeping none).state.baseOf containerInfra = .ok "https://magnum.test/v1" ∧
    (∀ i request body,
      pageOutcome .cluster request (((keeping none).fresh brokenPages).state.replyTo .get i) =
        .ok body → Legible .cluster body) ∧
    ∃ f, (((keeping none).fresh brokenPages).perform (.cloud (.list .cluster))).1 = .error f ∧
      (((keeping none).fresh brokenPages).perform (.cloud (.list .cluster))).2.ReadsAnew
        .cluster := by
  have hfirst : ((keeping none).fresh brokenPages).state.replyTo .get 0 = .answer linkedPage := rfl
  have hsecond : ((keeping none).fresh brokenPages).state.replyTo .get 1 = .answer unavailable :=
    rfl
  have hpage : ¬ linkedPage.status ≥ refusalStatus := by decide
  have hrefusal : unavailable.status ≥ refusalStatus := by decide
  have hlegible : ∀ i request body,
      pageOutcome .cluster request (((keeping none).fresh brokenPages).state.replyTo .get i) =
        .ok body → Legible .cluster body := by
    intro i request body h
    rcases i with _ | _ | i
    · rw [hfirst, pageOutcome_answer hpage] at h
      obtain rfl := Except.ok.inj h
      rintro page ⟨⟩ -
      exact .inr (.inr ⟨_, rfl⟩)
    · rw [hsecond] at h
      exact absurd h (pageOutcome_refusal hrefusal body)
    · exact absurd h (pageOutcome_missing .cluster request body)
  refine ⟨rfl, hlegible, ?_⟩
  obtain ⟨requests, pages, last, hread, -, hends, -, hcommand⟩ :=
    listing_whole_or_failed (keeping none) .cluster brokenPages rfl hlegible
  have hfails : ∃ f, last = .error f := by
    have h₀ := hread.answers 0
    have h₁ := hread.answers 1
    rw [hfirst] at h₀
    rw [hsecond] at h₁
    rcases pages with _ | ⟨page, _ | ⟨next, pages⟩⟩
    · -- the first page has a link, so it is not the last
      obtain ⟨request, -, hr⟩ := Option.map_eq_some_iff.mp h₀
      have hlast := (pageOutcome_answer hpage).symm.trans hr
      exact absurd (hends _ hlast.symm) (by decide)
    · obtain ⟨request, -, hr⟩ := Option.map_eq_some_iff.mp h₁
      cases last with
      | error f => exact ⟨f, rfl⟩
      | ok body => exact absurd hr (pageOutcome_refusal hrefusal body)
    · obtain ⟨request, -, hr⟩ := Option.map_eq_some_iff.mp h₁
      exact absurd hr (pageOutcome_refusal hrefusal next)
  obtain ⟨f, hf⟩ := hfails
  obtain ⟨-, -, hall⟩ := hcommand (.cloud (.list .cluster)) _ _ rfl rfl rfl
  obtain ⟨ho, -, -, hanew⟩ := hall f hf
  exact ⟨f, ho, hanew⟩

end Session

end MagnumClient
