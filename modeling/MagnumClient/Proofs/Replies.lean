/-
MagnumClient.Proofs.Replies — which reply each request meets.

Replies are prepared beforehand, and a request takes the first of those left that are for
its method. So which replies the requests of a command meet follows from their methods
(`met`), and so does what is left for others (`leftOver`). `Sends` says of two states that
some requests have been sent in between and have taken their replies.

All that calls send they send by exchanges, and `exchanged_exchange` says what one does:
which request it sends, if any, and that it comes to what is read of the reply.
-/
import MagnumClient.Proofs.Paging

namespace MagnumClient

/-! ## 1. Replies by methods -/

/-- The reply that the next request of a method meets. -/
def firstReply (m : Method) (ps : List Prepared) : Reply :=
  ((takeReply m ps).map (·.1)).getD .missing

/-- The replies that it leaves. -/
def otherReplies (m : Method) (ps : List Prepared) : List Prepared :=
  ((takeReply m ps).map (·.2)).getD ps

/-- The replies that requests of some methods meet, one after the other. -/
def met : List Prepared → List Method → List Reply
  | _, [] => []
  | ps, m :: ms => firstReply m ps :: met (otherReplies m ps) ms

/-- The replies that they leave. -/
def leftOver : List Prepared → List Method → List Prepared
  | ps, [] => ps
  | ps, m :: ms => leftOver (otherReplies m ps) ms

theorem met_append (ps : List Prepared) (ms ns : List Method) :
    met ps (ms ++ ns) = met ps ms ++ met (leftOver ps ms) ns := by
  induction ms generalizing ps with
  | nil => rfl
  | cons m ms ih => rw [List.cons_append, met, met, ih, leftOver, List.cons_append]

theorem leftOver_append (ps : List Prepared) (ms ns : List Method) :
    leftOver ps (ms ++ ns) = leftOver (leftOver ps ms) ns := by
  induction ms generalizing ps with
  | nil => rfl
  | cons m ms ih => exact ih (otherReplies m ps)

@[simp] theorem length_met (ps : List Prepared) (ms : List Method) :
    (met ps ms).length = ms.length := by
  induction ms generalizing ps with
  | nil => rfl
  | cons m ms ih => rw [met, List.length_cons, List.length_cons, ih]

namespace Cloud.State

/-! ## 2. Requests that have been sent -/

/-- Between two states some requests were sent, and each took its reply. -/
structure Sends (s : State) (added : List Request) (t : State) : Prop where
  sent : t.sent = s.sent ++ added
  replies : t.replies = leftOver s.replies (added.map Request.method)

namespace Sends

variable {s t u : State} {added more : List Request}

theorem refl (s : State) : Sends s [] s := ⟨(List.append_nil _).symm, rfl⟩

theorem trans (h : Sends s added t) (h' : Sends t more u) : Sends s (added ++ more) u where
  sent := by rw [h'.sent, h.sent, List.append_assoc]
  replies := by rw [h'.replies, h.replies, List.map_append, leftOver_append]

/-- What is sent next meets the replies that are left. -/
theorem met_append (h : Sends s added t) (ms : List Method) :
    met s.replies (added.map Request.method ++ ms) =
      met s.replies (added.map Request.method) ++ met t.replies ms := by
  rw [MagnumClient.met_append, h.replies]

theorem of_traffic (h : SameTraffic s t) : Sends s [] t :=
  ⟨by rw [h.sent, List.append_nil], h.replies⟩

theorem unique (h : Sends s added t) (h' : Sends s more t) : more = added :=
  List.append_cancel_left (h'.sent.symm.trans h.sent)

theorem before (hs : SameTraffic s t) (h : Sends t added u) : Sends s added u :=
  (of_traffic hs).trans h

theorem after (h : Sends s added t) (ht : SameTraffic t u) : Sends s added u := by
  simpa using h.trans (of_traffic ht)

end Sends

theorem sends_note (message : String) (s : State) : Sends s [] (s.note message) :=
  ⟨(List.append_nil _).symm, rfl⟩

theorem sends_endpointOf (name : String) (s : State) : Sends s [] (s.endpointOf name).2 where
  sent := (frame_endpointOf name s).sent
  replies := replies_endpointOf name s

theorem sends_receive (ask : Ask) (request : Request) (reply : Reply) (s : State) :
    Sends s [] (s.receive ask request reply).2 := by
  unfold receive
  cases outcome ask request reply <;> exact ⟨(List.append_nil _).symm, rfl⟩

/-- Where an ask is for: its own base, or else the endpoint of the service. -/
def baseFor (ask : Ask) (s : State) : Path.Part :=
  match ask.base with
  | some base => base
  | none => .segment ((s.baseOf ask.sender.service).toOption.getD "")

/-- What an exchange at a base does: for want of a service it sends nothing and fails, and
otherwise it sends the request that the ask becomes, and comes to what the reply to that
comes to. The client is told by its face, because asking for the endpoint may change it. -/
inductive Exchanged (ask : Ask) (base : Path.Part) (s : State) : Outcome → State → Prop where
  | unsent {t : State} (hfind : s.client.find? ask.sender.service = none) (h : Sends s [] t) :
    Exchanged ask base s (.error (Client.unregistered ask.sender.service)) t
  | sent {c : Client} {i : Nat} {service : Service} {t : State}
    (hface : c.face = s.client.face) (hfind : c.find? ask.sender.service = some i)
    (hservice : c.services[i]? = some service) (h : Sends s [c.request ask base service] t) :
    Exchanged ask base s
      ((outcome ask (c.request ask base service)
        (firstReply ask.method s.replies)).mapError Failure.toCloud) t

/-- On behalf of a service that is known, one request is sent. -/
theorem send_eq {ask : Ask} {base : Path.Part} {s : State} {i : Nat} {service : Service}
    (hfind : s.client.find? ask.sender.service = some i)
    (hservice : s.client.services[i]? = some service) :
    s.send ask base =
      (.ok (s.client.request ask base service, firstReply ask.method s.replies),
        { s with
          sent := s.sent ++ [s.client.request ask base service]
          replies := otherReplies ask.method s.replies }) := by
  unfold send firstReply otherReplies
  simp only [hfind, Option.bind_some, hservice]
  cases takeReply ask.method s.replies <;> rfl

theorem exchanged_exchangeAt (ask : Ask) (base : Path.Part) (s : State) :
    Exchanged ask base s (s.exchangeAt ask base).1 (s.exchangeAt ask base).2 := by
  unfold exchangeAt
  cases hfind : s.client.find? ask.sender.service with
  | none =>
    have hsend : s.send ask base = (.error (Client.unregistered ask.sender.service), s) := by
      simp [send, hfind]
    rw [hsend]
    exact .unsent hfind (.refl s)
  | some i =>
    obtain ⟨service, hservice, -⟩ := Client.getElem?_of_find? hfind
    have hsent : Sends s [s.client.request ask base service]
        { s with
          sent := s.sent ++ [s.client.request ask base service]
          replies := otherReplies ask.method s.replies } := ⟨rfl, rfl⟩
    rw [send_eq hfind hservice]
    show Exchanged ask base s (State.receive ..).1 (State.receive ..).2
    rw [fst_receive]
    exact .sent rfl hfind hservice (hsent.trans (sends_receive ..))

/-- Asking for the endpoint before an exchange is no business of it. -/
theorem Exchanged.of_sends {ask : Ask} {base : Path.Part} {s t u : State} {o : Outcome}
    (hs : Sends s [] t) (hface : t.client.face = s.client.face)
    (h : Exchanged ask base t o u) : Exchanged ask base s o u := by
  have hreplies : t.replies = s.replies := hs.replies
  cases h with
  | unsent hfind h => exact .unsent (by rwa [← Client.find?_congr hface]) (hs.trans h)
  | sent hc hfind hservice h =>
    rw [hreplies]
    exact .sent (hc.trans hface) hfind hservice (hs.trans h)

theorem exchanged_exchange (ask : Ask) (s : State) :
    Exchanged ask (s.baseFor ask) s (s.exchange ask).1 (s.exchange ask).2 := by
  unfold exchange baseFor
  cases ask.base with
  | some base => exact exchanged_exchangeAt ask base s
  | none =>
    have hs := sends_endpointOf ask.sender.service s
    have hface := (frame_endpointOf ask.sender.service s).face
    unfold baseOf
    cases hfind : s.client.find? ask.sender.service with
    | none =>
      have he : s.endpointOf ask.sender.service =
          (.error (Client.unregistered ask.sender.service), s) := by simp [endpointOf, hfind]
      rw [he]
      exact .unsent hfind (.refl s)
    | some i =>
      obtain ⟨e, t, he⟩ : ∃ e t, s.endpointOf ask.sender.service = (.ok e, t) := by
        simp [endpointOf, hfind]
      rw [he] at hs hface ⊢
      exact .of_sends hs hface (exchanged_exchangeAt ask (.segment e) t)

/-! ## 3. What is sent in all -/

theorem Exchanged.exists_sends {ask : Ask} {base : Path.Part} {s t : State} {o : Outcome}
    (h : Exchanged ask base s o t) : ∃ added, Sends s added t := by
  cases h with
  | unsent _ h => exact ⟨_, h⟩
  | sent _ _ _ h => exact ⟨_, h⟩

theorem exists_sends_exchange (ask : Ask) (s : State) :
    ∃ added, Sends s added (s.exchange ask).2 :=
  (exchanged_exchange ask s).exists_sends

/-- An answer that could be read was among the replies to come. -/
theorem length_replies_of_ok {ask : Ask} {s : State} {data : Option Json}
    (h : (s.exchange ask).1 = .ok data) :
    (s.exchange ask).2.replies.length < s.replies.length := by
  have hexchanged := exchanged_exchange ask s
  generalize (s.exchange ask).1 = o, (s.exchange ask).2 = t at h hexchanged
  cases hexchanged with
  | unsent _ _ => cases h
  | sent _ _ _ hsends =>
    rw [hsends.replies]
    show (otherReplies ask.method s.replies).length < _
    unfold firstReply at h
    unfold otherReplies
    cases ht : takeReply ask.method s.replies with
    | none =>
      rw [ht] at h
      cases h
    | some taken => exact length_takeReply ht

/-- After a page there is nothing more to read, or there are the pages behind it. -/
theorem exists_sends_after_page {count : Nat} {kind : Kind}
    (h : ∀ link items s, ∃ added, Sends s added (s.pages count kind link items).2)
    (link : Option Path.Part) (items : List Json) (s : State) :
    ∃ added, Sends (s.exchange (ContainerInfra.pageAsk kind link)).2 added
      (s.pages (count + 1) kind link items).2 := by
  unfold pages
  rcases s.exchange (ContainerInfra.pageAsk kind link) with ⟨_ | data, t⟩
  · exact ⟨[], .refl t⟩
  · cases hpage : ContainerInfra.readPage kind data with
    | error f => simpa only [hpage] using ⟨[], .refl t⟩
    | ok page =>
      obtain ⟨more, _ | next⟩ := page
      · simpa only [hpage] using ⟨[], .refl t⟩
      · simpa only [hpage] using h (some next) (items ++ more) t

theorem exists_sends_pages (count : Nat) (kind : Kind) (link : Option Path.Part)
    (items : List Json) (s : State) :
    ∃ added, Sends s added (s.pages count kind link items).2 := by
  induction count generalizing link items s with
  | zero => exact ⟨[], .refl s⟩
  | succ count ih =>
    obtain ⟨first, hfirst⟩ := exists_sends_exchange (ContainerInfra.pageAsk kind link) s
    obtain ⟨rest, hrest⟩ := exists_sends_after_page ih link items s
    exact ⟨first ++ rest, hfirst.trans hrest⟩

theorem exists_sends_collect (kind : Kind) (s : State) :
    ∃ added, Sends s added (s.collect kind).2 :=
  exists_sends_pages ..

theorem exists_sends_listing (kind : Kind) (s : State) :
    ∃ added, Sends s added (s.listing kind).2 := by
  cases hfresh : s.fresh? kind with
  | some flight =>
    rw [listing_of_fresh hfresh]
    exact ⟨[], .refl s⟩
  | none =>
    rw [listing_eq hfresh]
    obtain ⟨added, h⟩ := exists_sends_collect kind (s.begin kind).2
    exact ⟨added, (h.before (.begin kind s)).after (.land ..)⟩

end Cloud.State

namespace Cloud

open State

theorem exists_sends_run (c : Call) (s : State) : ∃ added, Sends s added (run c s).2 := by
  have hnext : ∀ {s t u : State}, (∃ added, Sends s added t) → (∃ added, Sends t added u) →
      ∃ added, Sends s added u := by
    rintro s t u ⟨_, h⟩ ⟨_, h'⟩
    exact ⟨_, h.trans h'⟩
  induction c generalizing s with
  | done o => exact ⟨[], .refl s⟩
  | exchange ask next ih => exact hnext (exists_sends_exchange ask s) (ih _ _)
  | collect kind next ih => exact hnext (exists_sends_collect kind s) (ih _ _)
  | listing kind next ih => exact hnext (exists_sends_listing kind s) (ih _ _)
  | forget kind next ih => exact hnext ⟨[], .of_traffic (.modifyMemo kind .invalidate s)⟩ (ih _)
  | note message next ih => exact hnext ⟨[], sends_note message s⟩ (ih _)

end Cloud

end MagnumClient
