/-
MagnumClient.Proofs.Twins — what is done for clusters and what is done for templates.

Listing, searching, getting, deleting and updating are there for both kinds, and each kind
has its own cache. So a session that has to do with clusters can be told over again for
templates: the same operations with the same arguments, and replies that differ in the key
of the collection (`Session.Paired`). Both show the same (`Session.templates_like_clusters`),
but for what `Proofs.Alike` leaves open.

The proof is a simulation. `State.Twins` relates the two states: the cache and the flights of
the one kind on one side are those of the other kind on the other. `Mirrors` is what a part
of a call keeps of it, given that the replies that its requests meet are counterparts, and is
closed under doing one part after the other. Only reading pages needs a word: the numbers of
pages allowed on either side are not the same, because the numbers of replies need not be,
but each is enough.
-/
import Mathlib.Data.List.Forall2
import MagnumClient.Proofs.Alike

namespace MagnumClient

/-! ## 1. States -/

/-- The replies that requests for templates meet are the counterparts of those that requests
for clusters meet, by the methods of the requests. -/
def Counterparts : List Method → List Prepared → List Prepared → Prop
  | [], _, _ => True
  | m :: ms, ps, ps' =>
    (firstReply m ps).Counterpart m (firstReply m ps') ∧
      Counterparts ms (otherReplies m ps) (otherReplies m ps')

theorem Response.exists_counterpart (m : Method) (r : Response) : ∃ r', r.Counterpart m r' := by
  by_cases hm : m = .get
  · subst hm
    cases hd : decoded false r.data with
    | none => exact ⟨r, rfl, rfl, rfl, by rw [hd]; rfl⟩
    | some v =>
      cases v with
      | obj fields =>
        refine ⟨{ r with data := some (Json.renamed (.obj fields)) }, rfl, rfl, rfl, ?_⟩
        rw [hd]
        rfl
      | _ => exact ⟨r, rfl, rfl, rfl, by rw [hd]; rfl⟩
  · exact ⟨r, rfl, rfl, rfl, (counterpart_of_ne hm _).symm⟩

/-- Whatever the replies are, there are counterparts of them. -/
theorem exists_counterparts (ms : List Method) (ps : List Prepared) :
    ∃ ps', Counterparts ms ps ps' := by
  induction ms generalizing ps with
  | nil => exact ⟨[], trivial⟩
  | cons m ms ih =>
    obtain ⟨ps', h⟩ := ih (otherReplies m ps)
    obtain ⟨reply, hreply⟩ : ∃ reply, (firstReply m ps).Counterpart m reply := by
      cases firstReply m ps with
      | answer r =>
        obtain ⟨r', hr⟩ := r.exists_counterpart m
        exact ⟨_, .answer hr⟩
      | lost message code => exact ⟨_, .lost message code⟩
      | fails f => exact ⟨_, .fails f⟩
    exact ⟨⟨none, reply⟩ :: ps', hreply, h⟩

/-- Two lines of the log are the same but for their wording. -/
structure Log.Entry.Alike (x y : Log.Entry) : Prop where
  level : y.level = x.level
  label : y.label = x.label
  message : Wording x.message y.message

namespace Cloud

/-- A flight for clusters and one for templates came to the same, if they are over. -/
structure Flight.Alike (f g : Flight) : Prop where
  kind : f.kind = .cluster
  kind' : g.kind = .template
  generation : g.generation = f.generation
  outcome : Option.Rel (MagnumClient.Alike Eq) f.outcome g.outcome

namespace State

/-- What one state is for clusters, the other is for templates. The replies to come are not
part of it. -/
structure Twins (s t : State) : Prop where
  client : t.client = s.client
  limit : t.limit = s.limit
  clock : t.clock = s.clock
  memo : t.templates = s.clusters
  flights : List.Forall₂ Flight.Alike s.flights t.flights
  sent : List.Forall₂ Request.Alike s.sent t.sent
  log : List.Forall₂ Log.Entry.Alike s.log t.log

namespace Twins

variable {s t : State}

theorem fresh? (h : Twins s t) : t.fresh? .template = s.fresh? .cluster := by
  show t.templates.fresh? t.limit t.clock = s.clusters.fresh? s.limit s.clock
  rw [h.memo, h.limit, h.clock]

/-- The caches of the two kinds change alike. -/
theorem modifyMemo (h : Twins s t) (f : Cache.Memo → Cache.Memo) :
    Twins (s.modifyMemo .cluster f) (t.modifyMemo .template f) :=
  ⟨h.client, h.limit, h.clock, congrArg f h.memo, h.flights, h.sent, h.log⟩

theorem note (h : Twins s t) {m m' : String} (hm : Wording m m') :
    Twins (s.note m) (t.note m') :=
  ⟨h.client, h.limit, h.clock, h.memo, h.flights, h.sent,
    List.rel_append h.log (.cons ⟨rfl, rfl, hm⟩ .nil)⟩

theorem endpoint (h : Twins s t) (i : Nat) :
    (t.endpoint i).1 = (s.endpoint i).1 ∧ Twins (s.endpoint i).2 (t.endpoint i).2 := by
  unfold State.endpoint
  rw [h.client]
  cases s.client.services[i]? with
  | none => exact ⟨rfl, h⟩
  | some x =>
    cases hk : x.kept.isEmpty with
    | false => simpa [hk] using h
    | true =>
      simp only [hk, if_true, askEndpoint, gotEndpoint, h.client]
      exact ⟨trivial, rfl, h.limit, h.clock, h.memo, h.flights, h.sent, h.log⟩

theorem endpointOf (h : Twins s t) (name : String) :
    (t.endpointOf name).1 = (s.endpointOf name).1 ∧
      Twins (s.endpointOf name).2 (t.endpointOf name).2 := by
  unfold State.endpointOf
  rw [h.client]
  cases s.client.find? name with
  | none => exact ⟨rfl, h⟩
  | some i => exact ⟨congrArg Except.ok (h.endpoint i).1, (h.endpoint i).2⟩

end Twins

/-- What was done for clusters was done for templates, if the replies were counterparts: it
came to what is alike, and the replies that are left are counterparts again. -/
def Mirrors (s s' t t' : State) (P : Prop) : Prop :=
  ∀ added, Sends s added s' → ∀ rest,
    Counterparts (added.map Request.method ++ rest) s.replies t.replies →
    P ∧ Twins s' t' ∧ Counterparts rest s'.replies t'.replies

namespace Mirrors

variable {s s' s'' t t' t'' : State} {P Q : Prop}

/-- Nothing was sent. -/
theorem of_unsent (hs : Sends s [] s') (ht : t'.replies = t.replies) (h : Twins s' t') (hP : P) :
    Mirrors s s' t t' P := by
  intro added hadded rest hreplies
  obtain rfl := hs.unique hadded
  refine ⟨hP, h, ?_⟩
  rw [hs.replies, ht]
  exact hreplies

/-- One part after the other. -/
theorem trans (hs : ∃ added, Sends s added s') (hs' : ∃ added, Sends s' added s'')
    (h : Mirrors s s' t t' P) (h' : P → Twins s' t' → Mirrors s' s'' t' t'' Q) :
    Mirrors s s'' t t'' Q := by
  intro added hadded rest hreplies
  obtain ⟨first, hfirst⟩ := hs
  obtain ⟨second, hsecond⟩ := hs'
  obtain rfl := (hfirst.trans hsecond).unique hadded
  rw [List.map_append, List.append_assoc] at hreplies
  obtain ⟨hP, htwins, hleft⟩ := h first hfirst _ hreplies
  exact h' hP htwins second hsecond rest hleft

end Mirrors

/-! ## 2. Exchanges -/

/-- What the log says of failures that are alike. -/
theorem alike_failureNote {f g : Failure} (h : f.Alike g) :
    List.Forall₂ Log.Entry.Alike (failureNote f) (failureNote g) := by
  have hsame : ∀ es : List Log.Entry, List.Forall₂ Log.Entry.Alike es es := fun es =>
    List.forall₂_same.mpr fun e _ => ⟨rfl, rfl, .same _⟩
  cases h with
  | same => exact hsame _
  | @request x y h =>
    have hsender := h.sender
    simp only [failureNote]
    have htext := h.text
    revert hsender
    generalize x.sender = a, y.sender = b
    rintro (⟨hservice, hoperation⟩ | _)
    · rename_i a b
      have hmessage := Wording.append (.append (.append (.same (a.service ++ ".")) hoperation)
        (.same " failed: ")) htext
      simp only [hservice]
      exact .cons ⟨rfl, rfl, hmessage⟩ .nil
    · exact .nil
  | cloud => exact .nil
  | http => exact .nil

theorem Twins.receive {s t : State} (h : Twins s t) {a a' : Ask} (ha : a.Alike a')
    {r r' : Request} (hr : r.Alike r') {reply reply' : Reply}
    (hreply : reply.Counterpart a.method reply') :
    Alike (fun d d' => d' = counterpart a.method d) (s.receive a r reply).1
        (t.receive a' r' reply').1 ∧
      Twins (s.receive a r reply).2 (t.receive a' r' reply').2 := by
  have ho := ha.outcome hr hreply
  unfold State.receive
  generalize MagnumClient.outcome a r reply = o, MagnumClient.outcome a' r' reply' = o' at ho
  cases ho with
  | ok hdata => exact ⟨.ok hdata, h⟩
  | error hf =>
    exact ⟨.error hf.toCloud, h.client, h.limit, h.clock, h.memo, h.flights, h.sent,
      List.rel_append h.log (alike_failureNote hf)⟩

theorem mirrors_exchangeAt {s t : State} (h : Twins s t) {a a' : Ask} (ha : a.Alike a')
    (base : Path.Part) :
    Mirrors s (s.exchangeAt a base).2 t (t.exchangeAt a' base).2
      (Alike (fun d d' => d' = counterpart a.method d) (s.exchangeAt a base).1
        (t.exchangeAt a' base).1) := by
  unfold exchangeAt
  cases hfind : s.client.find? a.sender.service with
  | none =>
    have hsend : s.send a base = (.error (Client.unregistered a.sender.service), s) := by
      simp [send, hfind]
    have hsend' : t.send a' base = (.error (Client.unregistered a.sender.service), t) := by
      simp [send, h.client, ha.service, hfind]
    rw [hsend, hsend']
    exact .of_unsent (.refl s) rfl h (.error (.same _))
  | some i =>
    obtain ⟨service, hservice, -⟩ := Client.getElem?_of_find? hfind
    have hfind' : t.client.find? a'.sender.service = some i := by rw [h.client, ha.service, hfind]
    have hservice' : t.client.services[i]? = some service := by rw [h.client, hservice]
    rw [send_eq hfind hservice, send_eq hfind' hservice', ha.method]
    show Mirrors s (State.receive ..).2 t (State.receive ..).2
      (Alike _ (State.receive ..).1 (State.receive ..).1)
    intro added hadded rest hreplies
    have hsent : Sends s [s.client.request a base service]
        { s with
          sent := s.sent ++ [s.client.request a base service]
          replies := otherReplies a.method s.replies } := ⟨rfl, rfl⟩
    obtain rfl := (hsent.trans (sends_receive ..)).unique hadded
    -- the request takes the first of the replies on either side
    obtain ⟨hreply, hleft⟩ := hreplies
    have hrequest : (s.client.request a base service).Alike (t.client.request a' base service) := by
      rw [h.client]
      exact ha.request s.client base service
    have hstate : Twins
        { s with
          sent := s.sent ++ [s.client.request a base service]
          replies := otherReplies a.method s.replies }
        { t with
          sent := t.sent ++ [t.client.request a' base service]
          replies := otherReplies a.method t.replies } :=
      ⟨h.client, h.limit, h.clock, h.memo, h.flights,
        List.rel_append h.sent (.cons hrequest .nil), h.log⟩
    obtain ⟨ho, htwins⟩ := hstate.receive ha hrequest hreply
    refine ⟨ho, htwins, ?_⟩
    rw [(sends_receive ..).replies, (sends_receive ..).replies]
    exact hleft

theorem mirrors_exchange {s t : State} (h : Twins s t) {a a' : Ask} (ha : a.Alike a') :
    Mirrors s (s.exchange a).2 t (t.exchange a').2
      (Alike (fun d d' => d' = counterpart a.method d) (s.exchange a).1 (t.exchange a').1) := by
  unfold exchange
  rw [ha.base]
  cases a.base with
  | some base => exact mirrors_exchangeAt h ha base
  | none =>
    rw [ha.service]
    have hs := sends_endpointOf a.sender.service s
    have ht := replies_endpointOf a.sender.service t
    obtain ⟨hsame, htwins⟩ := h.endpointOf a.sender.service
    rcases he : s.endpointOf a.sender.service with ⟨o, s'⟩
    rcases he' : t.endpointOf a.sender.service with ⟨o', t'⟩
    rw [he] at hs hsame htwins
    rw [he'] at ht hsame htwins
    obtain rfl : o' = o := hsame
    cases o' with
    | error f => exact .of_unsent hs ht htwins (.error (.same f))
    | ok e =>
      have hmiddle : Mirrors s s' t t' True := .of_unsent hs ht htwins trivial
      exact hmiddle.trans ⟨[], hs⟩ (exchanged_exchangeAt a (.segment e) s').exists_sends
        fun _ htwins => mirrors_exchangeAt htwins ha _

/-! ## 3. Listings -/

/-- Reading pages of the one collection mirrors reading those of the other. The numbers of
pages that are allowed may differ, if both are enough. -/
theorem mirrors_pages {count count' : Nat} (link : Option Path.Part) (items : List Json)
    {s t : State} (h : Twins s t) (hcount : s.replies.length < count)
    (hcount' : t.replies.length < count') :
    Mirrors s (s.pages count .cluster link items).2 t (t.pages count' .template link items).2
      (Alike Eq (s.pages count .cluster link items).1
        (t.pages count' .template link items).1) := by
  induction count generalizing count' link items s t with
  | zero => exact absurd hcount (Nat.not_lt_zero _)
  | succ count ih =>
    obtain ⟨count', rfl⟩ := Nat.exists_eq_succ_of_ne_zero (Nat.ne_zero_of_lt hcount')
    have hget : (ContainerInfra.pageAsk .cluster link).method = .get := by cases link <;> rfl
    have hpage := mirrors_exchange h (ContainerInfra.alike_pageAsk link)
    rw [hget] at hpage
    refine hpage.trans (exists_sends_exchange ..)
      (exists_sends_after_page (exists_sends_pages count .cluster) link items s)
      fun ho htwins => ?_
    -- a page that was read took a reply on either side, so those that are left are fewer
    have hless := @length_replies_of_ok (ContainerInfra.pageAsk .cluster link) s
    have hless' := @length_replies_of_ok (ContainerInfra.pageAsk .template link) t
    unfold pages
    rcases he : s.exchange (ContainerInfra.pageAsk .cluster link) with ⟨o, s'⟩
    rcases he' : t.exchange (ContainerInfra.pageAsk .template link) with ⟨o', t'⟩
    rw [he] at ho htwins hless
    rw [he'] at ho htwins hless'
    cases ho with
    | error hf => exact .of_unsent (.refl s') rfl htwins (.error hf)
    | @ok data _ hdata =>
      subst hdata
      have hread := readPage_counterpart data
      cases hpage : ContainerInfra.readPage .cluster data with
      | error f =>
        rw [hpage] at hread
        simp only [hpage, hread]
        exact .of_unsent (.refl s') rfl htwins (.refl _)
      | ok page =>
        rw [hpage] at hread
        obtain ⟨more, _ | next⟩ := page
        · simp only [hpage, hread]
          exact .of_unsent (.refl s') rfl htwins (.refl _)
        · simp only [hpage, hread]
          have : s'.replies.length < s.replies.length := hless rfl
          have : t'.replies.length < t.replies.length := hless' rfl
          exact ih (some next) (items ++ more) htwins (by omega) (by omega)

section

variable {α : Type} {R : α → α → Prop} {xs ys : List α}

theorem rel_getElem? (h : List.Forall₂ R xs ys) (i : Nat) : Option.Rel R xs[i]? ys[i]? := by
  induction h generalizing i with
  | nil => exact .none
  | cons hxy _ ih =>
    cases i with
    | zero => exact .some hxy
    | succ i => exact ih i

theorem forall₂_set (h : List.Forall₂ R xs ys) (i : Nat) {x y : α} (hxy : R x y) :
    List.Forall₂ R (xs.set i x) (ys.set i y) := by
  induction h generalizing i with
  | nil => exact .nil
  | cons hab htail ih =>
    cases i with
    | zero => exact .cons hxy htail
    | succ i => exact .cons hab (ih i)

end

theorem mirrors_collect {s t : State} (h : Twins s t) :
    Mirrors s (s.collect .cluster).2 t (t.collect .template).2
      (Alike Eq (s.collect .cluster).1 (t.collect .template).1) :=
  mirrors_pages none [] h (Nat.lt_succ_self _) (Nat.lt_succ_self _)

namespace Twins

variable {s t : State}

/-- What two flights of one number came to. -/
theorem outcome? (h : Twins s t) (flight : Nat) :
    Option.Rel (Alike Eq) (s.outcome? flight) (t.outcome? flight) := by
  have hflight := rel_getElem? h.flights flight
  unfold State.outcome?
  revert hflight
  generalize s.flights[flight]? = f, t.flights[flight]? = g
  rintro (hfg | _)
  · exact hfg.outcome
  · exact .none

theorem begin (h : Twins s t) : Twins (s.begin .cluster).2 (t.begin .template).2 where
  client := h.client
  limit := h.limit
  clock := h.clock
  memo := by
    show (t.templates.begin).store t.flights.length t.clock =
      (s.clusters.begin).store s.flights.length s.clock
    rw [h.memo, h.clock, h.flights.length_eq]
  flights := by
    refine List.rel_append h.flights (.cons ⟨rfl, rfl, ?_, .none⟩ .nil)
    show some (t.templates.begin).generation = some (s.clusters.begin).generation
    rw [h.memo]
  sent := h.sent
  log := h.log

theorem land (h : Twins s t) (flight : Nat) {o o' : Except Failure (List Json)}
    (ho : Alike Eq o o') : Twins (s.land flight o) (t.land flight o') := by
  have hflight := rel_getElem? h.flights flight
  unfold State.land
  revert hflight
  generalize s.flights[flight]? = f, t.flights[flight]? = g
  rintro (hfg | _)
  · rename_i f g
    obtain ⟨_, _, _⟩ := f
    obtain ⟨_, generation, _⟩ := g
    obtain ⟨rfl, rfl, rfl, -⟩ := hfg
    have hset : Twins
        { s with flights := s.flights.set flight ⟨.cluster, generation, some o⟩ }
        { t with flights := t.flights.set flight ⟨.template, generation, some o'⟩ } :=
      ⟨h.client, h.limit, h.clock, h.memo,
        forall₂_set h.flights flight ⟨rfl, rfl, rfl, .some ho⟩, h.sent, h.log⟩
    cases ho with
    | ok hvalue => exact hset
    | error hf =>
      cases generation with
      | none => exact hset
      | some generation => exact hset.modifyMemo _
  · exact h

end Twins

theorem mirrors_listing {s t : State} (h : Twins s t) :
    Mirrors s (s.listing .cluster).2 t (t.listing .template).2
      (Alike Eq (s.listing .cluster).1 (t.listing .template).1) := by
  cases hfresh : s.fresh? .cluster with
  | some flight =>
    rw [listing_of_fresh hfresh, listing_of_fresh (h.fresh?.trans hfresh)]
    refine .of_unsent (.refl s) rfl h ?_
    have ho := h.outcome? flight
    revert ho
    generalize s.outcome? flight = o, t.outcome? flight = o'
    rintro (ho | _)
    · exact ho
    · exact .refl _
  | none =>
    rw [listing_eq hfresh, listing_eq (h.fresh?.trans hfresh)]
    have hbegin := SameTraffic.begin .cluster s
    have hbegin' := SameTraffic.begin .template t
    have hfirst : Mirrors s (s.begin .cluster).2 t (t.begin .template).2 True :=
      .of_unsent (.of_traffic hbegin) hbegin'.replies h.begin trivial
    obtain ⟨added, hadded⟩ := exists_sends_collect .cluster (s.begin .cluster).2
    refine hfirst.trans ⟨[], .of_traffic hbegin⟩ ⟨added, hadded.after (.land ..)⟩
      fun _ htwins => ?_
    refine (mirrors_collect htwins).trans (exists_sends_collect ..) ⟨[], .of_traffic (.land ..)⟩
      fun ho hlisted => ?_
    refine .of_unsent (.of_traffic (.land ..)) (SameTraffic.land ..).replies ?_ ho
    rw [h.flights.length_eq]
    exact hlisted.land _ ho

end State

open State

/-! ## 4. Calls -/

/-- Calls that are alike mirror each other. -/
theorem mirrors_run {c c' : Call} (hc : c.Alike c') {s t : State} (h : Twins s t) :
    Mirrors s (run c s).2 t (run c' t).2 (Alike Eq (run c s).1 (run c' t).1) := by
  induction hc generalizing s t with
  | done ho => exact .of_unsent (.refl s) rfl h ho
  | @exchange a a' ha hm next next' _ ih =>
    refine (mirrors_exchange h ha).trans (exists_sends_exchange a s) (exists_sends_run _ _)
      fun ho htwins => ?_
    refine ih _ _ (ho.mono fun d d' hdata => ?_) htwins
    rw [hdata, counterpart_of_ne hm]
  | listing _ ih =>
    exact (mirrors_listing h).trans (exists_sends_listing ..) (exists_sends_run _ _)
      fun ho htwins => ih _ _ ho htwins
  | forget _ ih =>
    have htraffic := SameTraffic.modifyMemo .cluster .invalidate s
    have hforget : Mirrors s (s.modifyMemo .cluster .invalidate) t
        (t.modifyMemo .template .invalidate) True :=
      .of_unsent (.of_traffic htraffic) (SameTraffic.modifyMemo ..).replies (h.modifyMemo _) trivial
    exact hforget.trans ⟨[], .of_traffic htraffic⟩ (exists_sends_run ..) fun _ htwins => ih htwins
  | @note m m' hm _ _ _ ih =>
    have hnote : Mirrors s (s.note m) t (t.note m') True :=
      .of_unsent (sends_note m s) rfl (h.note hm) trivial
    exact hnote.trans ⟨[], sends_note m s⟩ (exists_sends_run ..) fun _ htwins => ih htwins

end Cloud

/-! ## 5. Sessions -/

namespace Session

/-- What can be seen of a command: what it came to, what it sent, and what it wrote to the
log. -/
structure Report where
  outcome : Outcome
  sent : List Request
  log : List Log.Entry

/-- The same can be seen of two commands, but for the words of their kinds. -/
structure Report.Alike (x y : Report) : Prop where
  outcome : MagnumClient.Alike Eq x.outcome y.outcome
  sent : List.Forall₂ Request.Alike x.sent y.sent
  log : List.Forall₂ Log.Entry.Alike x.log y.log

/-- What can be seen of the commands of a run of steps. -/
def reports (s : Session) : List Step → List Report
  | [] => []
  | .command c replies :: steps =>
    let (o, t) := (s.fresh replies).perform c
    ⟨o, t.state.sent, t.state.log⟩ :: t.reports steps
  | .advance ms :: steps => (s.advance ms).reports steps

/-- A step of a session that has to do with one kind of resources. -/
inductive SharedStep where
  | command (op : Cloud.Shared) (replies : List Prepared)
  | advance (ms : Float)

/-- The step for a kind. -/
def SharedStep.step (kind : Kind) : SharedStep → Step
  | command op replies => .command (.cloud (op.operation kind)) replies
  | advance ms => .advance ms

/-- The methods of the requests that an operation on clusters sends. -/
def methodsOf (op : Cloud.Shared) (replies : List Prepared) (s : Session) : List Method :=
  ((s.fresh replies).perform (.cloud (op.operation .cluster))).2.state.sent.map Request.method

/-- Steps for clusters in a session, and the same steps for templates with the counterparts
of the replies. -/
inductive Paired : Session → List SharedStep → List SharedStep → Prop where
  | nil (s : Session) : Paired s [] []
  | advance {s : Session} (ms : Float) {xs ys : List SharedStep} (h : Paired (s.advance ms) xs ys) :
    Paired s (.advance ms :: xs) (.advance ms :: ys)
  | command {s : Session} (op : Cloud.Shared) {ps ps' : List Prepared} {xs ys : List SharedStep}
    (hreplies : Counterparts (s.methodsOf op ps) ps ps')
    (h : Paired (s.step (.command (.cloud (op.operation .cluster)) ps)) xs ys) :
    Paired s (.command op ps :: xs) (.command op ps' :: ys)

/-- Every run of steps for clusters can be told over again for templates. -/
theorem exists_paired (s : Session) (xs : List SharedStep) : ∃ ys, Paired s xs ys := by
  induction xs generalizing s with
  | nil => exact ⟨[], .nil s⟩
  | cons x xs ih =>
    cases x with
    | advance ms =>
      obtain ⟨ys, h⟩ := ih (s.advance ms)
      exact ⟨_, .advance ms h⟩
    | command op ps =>
      obtain ⟨ps', hreplies⟩ := exists_counterparts (s.methodsOf op ps) ps
      obtain ⟨ys, h⟩ := ih (s.step (.command (.cloud (op.operation .cluster)) ps))
      exact ⟨_, .command op hreplies h⟩

/-- What one session is for clusters, the other is for templates. -/
structure Twins (s t : Session) : Prop where
  state : Cloud.State.Twins s.state t.state
  place : t.place = s.place

namespace Twins

variable {s t : Session}

theorem advance (h : s.Twins t) (ms : Float) : (s.advance ms).Twins (t.advance ms) := by
  refine ⟨⟨h.state.client, h.state.limit, ?_, h.state.memo, h.state.flights, h.state.sent,
    h.state.log⟩, h.place⟩
  show t.state.clock + ms = s.state.clock + ms
  rw [h.state.clock]

/-- One operation on clusters, and the same on templates. -/
theorem perform (h : s.Twins t) (op : Cloud.Shared) {ps ps' : List Prepared}
    (hreplies : Counterparts (s.methodsOf op ps) ps ps') :
    Alike Eq ((s.fresh ps).perform (.cloud (op.operation .cluster))).1
        ((t.fresh ps').perform (.cloud (op.operation .template))).1 ∧
      Twins ((s.fresh ps).perform (.cloud (op.operation .cluster))).2
        ((t.fresh ps').perform (.cloud (op.operation .template))).2 := by
  have hfresh : Cloud.State.Twins (s.fresh ps).state (t.fresh ps').state :=
    ⟨h.state.client, h.state.limit, h.state.clock, h.state.memo, h.state.flights, .nil, .nil⟩
  have hmirrors := Cloud.mirrors_run (Cloud.alike_operation s.place op) hfresh
  obtain ⟨added, hadded⟩ :=
    Cloud.exists_sends_run ((op.operation .cluster).call s.place) (s.fresh ps).state
  have hsent : (Cloud.run ((op.operation .cluster).call s.place) (s.fresh ps).state).2.sent =
      added := hadded.sent
  obtain ⟨ho, htwins, -⟩ := hmirrors added hadded [] (by
    rw [List.append_nil, ← hsent]
    exact hreplies)
  have hplace : (t.fresh ps').perform (.cloud (op.operation .template)) =
      ((Cloud.run ((op.operation .template).call s.place) (t.fresh ps').state).1,
        { t.fresh ps' with
          state := (Cloud.run ((op.operation .template).call s.place)
            (t.fresh ps').state).2 }) := by
    rw [← h.place]
    rfl
  rw [hplace]
  exact ⟨ho, htwins, h.place⟩

/-- Paired steps show the same. -/
theorem reports (h : s.Twins t) {xs ys : List SharedStep} (hpaired : Paired s xs ys) :
    List.Forall₂ Report.Alike (s.reports (xs.map (SharedStep.step .cluster)))
      (t.reports (ys.map (SharedStep.step .template))) := by
  induction hpaired generalizing t with
  | nil => exact .nil
  | advance ms _ ih => exact ih (h.advance ms)
  | command op hreplies _ ih =>
    obtain ⟨ho, htwins⟩ := h.perform op hreplies
    exact .cons ⟨ho, htwins.state.sent, htwins.state.log⟩ (ih htwins)

end Twins

/-- Whatever is done for clusters in a session, the same done for templates, with the bodies
of listings renamed, sends the same requests, comes to the same and writes the same to the
log, but for the place of the collection and the words for resources and operations. -/
theorem templates_like_clusters (settings : Settings) (strict : Bool) (place : Json)
    (cacheExpiration : Option Float) (clock : Float) {xs ys : List SharedStep}
    (h : Paired (start settings strict place cacheExpiration clock) xs ys) :
    List.Forall₂ Report.Alike
      ((start settings strict place cacheExpiration clock).reports
        (xs.map (SharedStep.step .cluster)))
      ((start settings strict place cacheExpiration clock).reports
        (ys.map (SharedStep.step .template))) := by
  have htwins : (start settings strict place cacheExpiration clock).Twins
      (start settings strict place cacheExpiration clock) :=
    ⟨⟨rfl, rfl, rfl, rfl, .nil, .nil, .nil⟩, rfl⟩
  exact htwins.reports h

/-- A page that holds one resource. -/
def pageOf (kind : Kind) : List Prepared :=
  [⟨none, .answer ⟨200, "", some (.obj [(kind.collection, .arr [Cloud.web])]), []⟩⟩]

/-- The confirmation of a deletion. -/
def deleted : List Prepared := [⟨none, .answer ⟨204, "", none, []⟩⟩]

/-- A listing of one resource, and its deletion a second later. -/
def listAndDelete (kind : Kind) : List SharedStep :=
  [.command .list (pageOf kind), .advance 1000, .command (.delete (.name "web")) deleted]

/-- A template is listed and deleted like a cluster. -/
theorem template_deleted_like_cluster :
    Paired (keeping none) (listAndDelete .cluster) (listAndDelete .template) ∧
    List.Forall₂ Report.Alike
      ((keeping none).reports ((listAndDelete .cluster).map (SharedStep.step .cluster)))
      ((keeping none).reports ((listAndDelete .template).map (SharedStep.step .template))) := by
  have hlisted : (keeping none).methodsOf .list (pageOf .cluster) = [.get] := by decide +kernel
  have hdeleted : (((keeping none).step (.command (.cloud (.list .cluster))
      (pageOf .cluster))).advance 1000).methodsOf (.delete (.name "web")) deleted = [.delete] := by
    decide +kernel
  have hpaired : Paired (keeping none) (listAndDelete .cluster) (listAndDelete .template) := by
    refine .command .list ?_ (.advance 1000 (.command (.delete (.name "web")) ?_ (.nil _)))
    · exact hlisted ▸ ⟨.answer ⟨rfl, rfl, rfl, rfl⟩, trivial⟩
    · exact hdeleted ▸ ⟨.answer ⟨rfl, rfl, rfl, rfl⟩, trivial⟩
  exact ⟨hpaired, templates_like_clusters ⟨"https://magnum.test/v1", "token", "latest", 5000⟩ false
    .null none 0 hpaired⟩

end Session

end MagnumClient
