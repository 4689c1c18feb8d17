/-
MagnumClient.Proofs.Refusals — a failed request is the end of its call, and what is known
of it is told.

A request fails on a reply that refuses it, on none, or on an error that carries its
configuration (`Reply.FailsWith`). What the caller is told then are the status, the
identifier and the details of the answer to that very request, and its URL
(`HttpFacts.of`).

On its way to the caller a failure passes all layers of an operation: the pages of a
collection, the listing that is cached, the look-up of a resource, the operation's own
message. `Relays` says of a part of a call that a failed request is its end and is told as
it was. It is closed under doing one part after the other (`Relays.trans`), so a whole call
is settled by induction over its tree (`relays_run`).
-/
import MagnumClient.Proofs.Orderly
import MagnumClient.Proofs.Replies

namespace MagnumClient

/-! ## 1. Failed requests -/

/-- What is known of a failed request, given the answer if there was one. -/
def HttpFacts.of (request : Request) : Option Response → HttpFacts
  | none => ⟨none, none, none, some request.url⟩
  | some r =>
    ⟨some r.status, Failure.textField? Failure.requestIdHeader (receivedHeaders r.headers),
      Failure.details? (decoded false r.data), some request.url⟩

/-- A request fails on a reply, with the answer if there was one. An error that carries the
configuration of the request names its URL. -/
inductive Reply.FailsWith (request : Request) : Reply → Option Response → Prop where
  | refused {r : Response} (h : r.status ≥ refusalStatus) : FailsWith request (.answer r) (some r)
  | lost (message : String) (code : Option String) : FailsWith request (.lost message code) none
  | thrown {x : RequestFailure} (h : x.url = some request.url) :
    FailsWith request (.fails (.request x)) x.response

/-- Such a reply is read as a failure that tells what is known of the request. -/
theorem outcome_of_failsWith {ask : Ask} {request : Request} {reply : Reply}
    {answer : Option Response} (hask : ask.choices.verbatim = false)
    (h : reply.FailsWith request answer) :
    ∃ f, (outcome ask request reply).mapError Failure.toCloud = .error f ∧
      f.facts? = some (.of request answer) := by
  cases h with
  | refused hstatus =>
    refine ⟨_, by rw [outcome, if_pos hstatus]; rfl, ?_⟩
    rw [hask]
    rfl
  | lost message code => exact ⟨_, rfl, rfl⟩
  | @thrown x h =>
    refine ⟨_, rfl, ?_⟩
    rw [hask]
    obtain ⟨_, _, _, url, response, _⟩ := x
    obtain rfl : url = some request.url := h
    cases response <;> rfl

namespace Cloud

/-! ## 2. What a failed request comes to -/

namespace State

/-- Between two states some requests were sent, and if one of them failed it was the last,
and what is known of it is told. -/
def Relays {α : Type} (s : State) (o : Except Failure α) (t : State) : Prop :=
  ∃ added, Sends s added t ∧
    ∀ (i : Nat) request reply answer, added[i]? = some request →
      (met s.replies (added.map Request.method))[i]? = some reply →
      reply.FailsWith request answer →
      added.length = i + 1 ∧ ∃ f, o = .error f ∧ f.facts? = some (.of request answer)

namespace Relays

variable {α β : Type} {s t u : State} {o : Except Failure α} {o' : Except Failure β}

/-- What sends nothing comes to anything. -/
theorem of_unsent (h : Sends s [] t) (o : Except Failure α) : Relays s o t :=
  ⟨[], h, by simp⟩

/-- One part after the other. If the first ends with a failed request, the second must not
send anything, and must tell what is known of that request. -/
theorem trans (h : Relays s o t) (h' : Relays t o' u)
    (hrelay : ∀ f facts, o = .error f → f.facts? = some facts →
      u.sent = t.sent ∧ ∃ g, o' = .error g ∧ g.facts? = some facts) : Relays s o' u := by
  obtain ⟨added, hs, hadded⟩ := h
  obtain ⟨more, hs', hmore⟩ := h'
  refine ⟨added ++ more, hs.trans hs', fun i request reply answer hrequest hreply hfails => ?_⟩
  rw [List.map_append, hs.met_append] at hreply
  have hlength : (met s.replies (added.map Request.method)).length = added.length := by simp
  rcases Nat.lt_or_ge i added.length with hi | hi
  · rw [List.getElem?_append_left hi] at hrequest
    rw [List.getElem?_append_left (hlength ▸ hi)] at hreply
    obtain ⟨hlast, f, ho, hf⟩ := hadded i request reply answer hrequest hreply hfails
    obtain ⟨hquiet, hg⟩ := hrelay f _ ho hf
    have hnone : more = [] := by simpa [hs'.sent] using hquiet
    exact ⟨by rw [hnone, List.append_nil, hlast], hg⟩
  · rw [List.getElem?_append_right hi] at hrequest
    rw [List.getElem?_append_right (hlength ▸ hi), hlength] at hreply
    obtain ⟨hlast, hg⟩ := hmore _ request reply answer hrequest hreply hfails
    refine ⟨?_, hg⟩
    rw [List.length_append, hlast]
    omega

/-- To go on after a value asks for nothing else. -/
theorem trans_ok {a : α} (h : Relays s (.ok a : Except Failure α) t) (h' : Relays t o' u) :
    Relays s o' u :=
  h.trans h' fun _ _ ho => nomatch ho

/-- A part of another type can fail with the same failure. -/
theorem error {f : Failure} (h : Relays s (.error f : Except Failure α) t) :
    Relays s (.error f : Except Failure β) t :=
  h.trans (of_unsent (.refl t) _) fun g facts ho hg => ⟨rfl, f, rfl, by cases ho; exact hg⟩

end Relays

theorem relays_exchange {ask : Ask} (hask : ask.choices.verbatim = false) (s : State) :
    Relays s (s.exchange ask).1 (s.exchange ask).2 := by
  have h := exchanged_exchange ask s
  generalize (s.exchange ask).1 = o, (s.exchange ask).2 = t at h
  cases h with
  | unsent _ h => exact .of_unsent h _
  | @sent c _ service _ _ _ _ h =>
    refine ⟨[c.request ask _ service], h, fun i request reply answer hrequest hreply hfails => ?_⟩
    -- the one request is the one that failed
    obtain ⟨rfl, rfl⟩ : i = 0 ∧ c.request ask _ service = request := by
      simpa [List.getElem?_singleton] using hrequest
    obtain rfl : firstReply ask.method s.replies = reply := Option.some.inj hreply
    exact ⟨rfl, outcome_of_failsWith hask hfails⟩

theorem relays_pages (count : Nat) (kind : Kind) (link : Option Path.Part) (items : List Json)
    (s : State) :
    Relays s (s.pages count kind link items).1 (s.pages count kind link items).2 := by
  induction count generalizing link items s with
  | zero => exact .of_unsent (.refl s) _
  | succ count ih =>
    have hverbatim : (ContainerInfra.pageAsk kind link).choices.verbatim = false := by
      rw [ContainerInfra.choices_pageAsk]
      rfl
    have h := relays_exchange hverbatim s
    unfold pages
    rcases he : s.exchange (ContainerInfra.pageAsk kind link) with ⟨o, t⟩
    rw [he] at h
    cases o with
    | error f => exact h.error
    | ok data =>
      cases hpage : ContainerInfra.readPage kind data with
      | error f => simpa only [hpage] using h.trans_ok (.of_unsent (.refl t) _)
      | ok page =>
        obtain ⟨more, next⟩ := page
        cases next with
        | none => simpa only [hpage] using h.trans_ok (.of_unsent (.refl t) _)
        | some next => simpa only [hpage] using h.trans_ok (ih (some next) (items ++ more) t)

theorem relays_collect (kind : Kind) (s : State) :
    Relays s (s.collect kind).1 (s.collect kind).2 :=
  relays_pages ..

/-- A failed listing fails for whoever asked for it. -/
theorem relays_listing (kind : Kind) (s : State) :
    Relays s (s.listing kind).1 (s.listing kind).2 := by
  cases hfresh : s.fresh? kind with
  | some flight =>
    rw [listing_of_fresh hfresh]
    exact .of_unsent (.refl s) _
  | none =>
    rw [listing_eq hfresh]
    have hbegin : Relays s (.ok () : Except Failure Unit) (s.begin kind).2 :=
      .of_unsent (.of_traffic (.begin kind s)) _
    have hland := Sends.of_traffic
      (SameTraffic.land (s.begin kind).1 ((s.begin kind).2.collect kind).1
        ((s.begin kind).2.collect kind).2)
    obtain ⟨added, hsends, htold⟩ := hbegin.trans_ok (relays_collect kind (s.begin kind).2)
    exact ⟨added, by simpa using hsends.trans hland, htold⟩

end State

open State

/-- Doing a part of a call and then the rest. -/
theorem relays_next {α : Type} {next : Except Failure α → Call} {s t : State}
    {o : Except Failure α} (h : Relays s o t) (hnext : Call.Relaying next)
    (hrest : Relays t (run (next o) t).1 (run (next o) t).2) :
    Relays s (run (next o) t).1 (run (next o) t).2 := by
  refine h.trans hrest fun f facts ho hf => ?_
  obtain ⟨g, hg, hfacts⟩ := hnext f facts hf
  rw [ho, hg]
  exact ⟨rfl, g, rfl, hfacts⟩

/-- The first request that fails is the last of an orderly call, which tells what is known of
it. -/
theorem relays_run {c : Call} (h : c.Orderly) (s : State) : Relays s (run c s).1 (run c s).2 := by
  induction c generalizing s with
  | done o => exact .of_unsent (.refl s) o
  | exchange ask next ih =>
    have hverbatim : ask.choices.verbatim = false := by rw [h.1.choices]; rfl
    exact relays_next (relays_exchange hverbatim s) h.2.1 (ih _ (h.2.2 _) _)
  | collect kind next ih => exact relays_next (relays_collect kind s) h.1 (ih _ (h.2 _) _)
  | listing kind next ih => exact relays_next (relays_listing kind s) h.1 (ih _ (h.2 _) _)
  | forget kind next ih =>
    have hforget : Relays s (.ok () : Except Failure Unit) (s.modifyMemo kind .invalidate) :=
      .of_unsent (.of_traffic (.modifyMemo ..)) _
    exact hforget.trans_ok (ih h _)
  | note message next ih =>
    have hnote : Relays s (.ok () : Except Failure Unit) (s.note message) :=
      .of_unsent (sends_note message s) _
    exact hnote.trans_ok (ih h _)

end Cloud

/-! ## 3. Operations on a cloud -/

namespace Session

end Session

end MagnumClient
