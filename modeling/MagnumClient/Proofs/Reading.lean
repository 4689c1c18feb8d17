/-
MagnumClient.Proofs.Reading — reading a collection page by page.

A collection is read from its first page on, and every further page from the link
on the page before. `Reading` says which requests that takes, and which replies
they meet: `pages` are the bodies that have a page after them, and `last` is what
the request comes to at which reading ends. Replies are counted among those that a
GET request takes (`State.repliesFor`), since the pages take them one after the
other.

The number of pages is not bounded beforehand, but each takes a reply, and without
a reply a request fails. So reading ends, and it does so at a page without a link,
at a page that cannot be read, or at a failure (`pages_reading`).
-/
import Mathlib.Data.List.Basic
import MagnumClient.Proofs.Asks

namespace MagnumClient

/-! ## 1. Replies -/

/-- A reply that is taken is the first that suits, and the others stay. -/
theorem filter_suits_of_takeReply {m : Method} {ps rest : List Prepared} {r : Reply}
    (h : takeReply m ps = some (r, rest)) :
    ∃ p, ps.filter (·.suits m) = p :: rest.filter (·.suits m) ∧ p.reply = r := by
  induction ps generalizing rest with
  | nil => cases h
  | cons p ps ih =>
    unfold takeReply at h
    split at h
    · rename_i hp
      simp only [Option.some.injEq, Prod.mk.injEq] at h
      obtain ⟨rfl, rfl⟩ := h
      exact ⟨p, List.filter_cons_of_pos hp, rfl⟩
    · rename_i hp
      obtain ⟨⟨r', rest'⟩, ht, he⟩ := Option.map_eq_some_iff.mp h
      simp only [Prod.mk.injEq] at he
      obtain ⟨rfl, rfl⟩ := he
      obtain ⟨q, hq, hr⟩ := ih ht
      refine ⟨q, ?_, hr⟩
      rw [List.filter_cons_of_neg hp, List.filter_cons_of_neg hp, hq]

/-- No reply is taken if none suits. -/
theorem filter_suits_of_takeReply_none {m : Method} {ps : List Prepared}
    (h : takeReply m ps = none) : ps.filter (·.suits m) = [] := by
  induction ps with
  | nil => rfl
  | cons p ps ih =>
    unfold takeReply at h
    split at h
    · cases h
    · rename_i hp
      rw [List.filter_cons_of_neg hp]
      exact ih (Option.map_eq_none_iff.mp h)

namespace Cloud.State

/-- The replies that requests of a method will meet, in their order. -/
def repliesFor (m : Method) (s : State) : List Reply :=
  (s.replies.filter (·.suits m)).map Prepared.reply

/-- The reply that a request of a method meets before which `i` others are sent. -/
def replyTo (m : Method) (s : State) (i : Nat) : Reply := ((s.repliesFor m)[i]?).getD .missing

theorem nextReply_eq (m : Method) (s : State) : s.nextReply m = s.replyTo m 0 := by
  unfold nextReply replyTo repliesFor
  cases h : takeReply m s.replies with
  | none => simp [filter_suits_of_takeReply_none h]
  | some t =>
    obtain ⟨p, hp, hr⟩ := filter_suits_of_takeReply h
    simp [hp, hr]

/-- An exchange takes the reply that its request meets. -/
theorem repliesFor_exchangeAt {ask : Ask} {base : Path.Part} {s : State}
    (h : (s.client.find? ask.sender.service).isSome = true) :
    (s.exchangeAt ask base).2.repliesFor ask.method = (s.repliesFor ask.method).tail := by
  obtain ⟨i, hi⟩ := Option.isSome_iff_exists.mp h
  obtain ⟨x, hx, -⟩ := Client.getElem?_of_find? hi
  have hreceive : ∀ request reply (t : State),
      (t.receive ask request reply).2.replies = t.replies := by
    intro request reply t
    unfold receive
    cases outcome ask request reply <;> rfl
  unfold exchangeAt send repliesFor
  simp only [hi, Option.bind_some, hx]
  cases ht : takeReply ask.method s.replies with
  | none => simp [hreceive, filter_suits_of_takeReply_none ht]
  | some taken =>
    obtain ⟨p, hp, -⟩ := filter_suits_of_takeReply ht
    simp [hreceive, hp]

/-- A name that has an endpoint is that of a service. -/
theorem isSome_find?_of_baseOf {name base : String} {s : State} (h : s.baseOf name = .ok base) :
    (s.client.find? name).isSome = true := by
  rw [baseOf_eq] at h
  cases hf : s.client.find? name with
  | none =>
    rw [hf] at h
    cases h
  | some i => rfl

/-- An exchange on behalf of a service takes one reply. -/
theorem repliesFor_exchange {ask : Ask} {s : State} {base : String}
    (h : s.baseOf ask.sender.service = .ok base) :
    (s.exchange ask).2.repliesFor ask.method = (s.repliesFor ask.method).tail := by
  unfold exchange
  cases ask.base with
  | some link => exact repliesFor_exchangeAt (isSome_find?_of_baseOf h)
  | none =>
    have hf := frame_endpointOf ask.sender.service s
    have hr := replies_endpointOf ask.sender.service s
    unfold baseOf at h
    rcases he : s.endpointOf ask.sender.service with ⟨o, t⟩
    rw [he] at hf hr h
    obtain rfl : o = .ok base := h
    have hbase : t.baseOf ask.sender.service = .ok base :=
      (hf.baseOf _).trans (congrArg Prod.fst he)
    refine (repliesFor_exchangeAt (isSome_find?_of_baseOf hbase)).trans ?_
    unfold repliesFor
    rw [show t.replies = s.replies from hr]

end Cloud.State

/-! ## 2. Pages -/

namespace ContainerInfra

/-- The items on a page: those of its collection. A body that counts as nothing
has none. -/
def itemsOf (kind : Kind) (body : Option Json) : List Json :=
  (((body.filter Json.isTruthy).bind (Json.field? kind.collection)).bind Json.items?).getD []

/-- Where the page after a page is, if there is one. -/
def linkAfter (body : Option Json) : Option Path.Part :=
  (body.filter Json.isTruthy).bind nextLink

/-- A body that can be read as a page: it counts as nothing, or its collection is a
list, null or missing. -/
def Legible (kind : Kind) (body : Option Json) : Prop :=
  ∀ page, body = some page → page.isTruthy = true →
    page.field? kind.collection = none ∨ page.field? kind.collection = some .null ∨
      ∃ items, page.field? kind.collection = some (.arr items)

theorem readPage_of_legible {kind : Kind} {body : Option Json} (h : Legible kind body) :
    readPage kind body = .ok (itemsOf kind body, linkAfter body) := by
  unfold readPage itemsOf linkAfter
  cases body with
  | none => rfl
  | some page =>
    cases hp : page.isTruthy with
    | false => simp [hp, Option.filter]
    | true =>
      rcases h page rfl hp with hf | hf | ⟨items, hf⟩ <;>
        simp [hp, hf, Option.filter, pageItems, Json.items?]

/-- What is read of a page is its items and its link. -/
theorem linkAfter_of_readPage {kind : Kind} {body : Option Json} {items : List Json}
    {link : Option Path.Part} (h : readPage kind body = .ok (items, link)) :
    link = linkAfter body := by
  unfold readPage at h
  unfold linkAfter
  cases body with
  | none =>
    cases h
    rfl
  | some page =>
    cases hp : page.isTruthy with
    | false =>
      simp only [hp, Bool.false_eq_true, if_false, Except.ok.injEq, Prod.mk.injEq] at h
      simp [Option.filter, hp, ← h.2]
    | true =>
      simp only [hp, if_true] at h
      cases hi : pageItems (page.field? kind.collection) with
      | error f =>
        rw [hi] at h
        cases h
      | ok more =>
        rw [hi] at h
        simp only [Except.ok.injEq, Prod.mk.injEq] at h
        simp [Option.filter, hp, ← h.2]

/-- Where a page is: the first one in the place of the collection at the endpoint,
another at its link. -/
def pageUrl (base : String) (kind : Kind) : Option Path.Part → String
  | none => Path.join [.segment base, .segment kind.place]
  | some link => Path.join [link, .segment ""]

/-- What the request for a page comes to, given the reply. -/
def pageOutcome (kind : Kind) (request : Request) (reply : Reply) : Outcome :=
  (outcome (pageAsk kind none) request reply).mapError Failure.toCloud

theorem pageOutcome_eq (kind : Kind) (link : Option Path.Part) (request : Request)
    (reply : Reply) :
    (outcome (pageAsk kind link) request reply).mapError Failure.toCloud =
      pageOutcome kind request reply := by
  cases link <;> cases reply <;> rfl

/-- A request without a reply fails. -/
theorem pageOutcome_missing (kind : Kind) (request : Request) (body : Option Json) :
    pageOutcome kind request .missing ≠ .ok body := by
  intro h
  cases h

/-- An answer that is no refusal gives its data. -/
theorem pageOutcome_answer {kind : Kind} {request : Request} {r : Response}
    (h : ¬ r.status ≥ refusalStatus) :
    pageOutcome kind request (.answer r) = .ok (decoded false r.data) := by
  simp [pageOutcome, outcome, h, pageAsk, ask, Choices.usual, received, Except.mapError]

theorem pageOutcome_refusal {kind : Kind} {request : Request} {r : Response}
    (h : r.status ≥ refusalStatus) (body : Option Json) :
    pageOutcome kind request (.answer r) ≠ .ok body := by
  simp [pageOutcome, outcome, h, Except.mapError]

/-- The requests for the pages of a collection from a link on, given the replies
that they meet. All `pages` have a page after them; `last` is what the request for
the last page comes to. -/
structure Reading (kind : Kind) (base : String) (replies : Nat → Reply)
    (link : Option Path.Part) (requests : List Request) (pages : List (Option Json))
    (last : Outcome) : Prop where
  targets : requests.map (fun r => (r.method, r.url)) =
    (link :: pages.map linkAfter).map fun l => (.get, pageUrl base kind l)
  answers : ∀ i : Nat, (requests[i]?).map (fun r => pageOutcome kind r (replies i)) =
    (pages.map .ok ++ [last])[i]?
  linked : ∀ body ∈ pages, ∃ items next, readPage kind body = .ok (items, some next)
  ends : ∀ body, last = .ok body → ∀ items next, readPage kind body ≠ .ok (items, some next)

/-- The items of all pages in their order, unless the last request fails. -/
def whole (kind : Kind) (pages : List (Option Json)) (last : Outcome) :
    Except Failure (List Json) :=
  last.map fun body => (pages ++ [body]).flatMap (itemsOf kind)

/-- The items that are read of a page. -/
def itemsRead (kind : Kind) (body : Option Json) : List Json :=
  match readPage kind body with
  | .ok (items, _) => items
  | .error _ => []

/-- What reading comes to, given what the last request comes to, behind the items
of the pages before. -/
def readLast (kind : Kind) (items : List Json) : Outcome → Except Failure (List Json)
  | .error f => .error f
  | .ok body => (readPage kind body).map fun page => items ++ page.1

namespace Reading

variable {kind : Kind} {base : String} {replies : Nat → Reply} {link : Option Path.Part}
  {request : Request} {requests : List Request} {pages : List (Option Json)} {last : Outcome}

/-- Reading that ends with its first request. -/
theorem single (hmethod : request.method = .get) (hurl : request.url = pageUrl base kind link)
    (hlast : pageOutcome kind request (replies 0) = last)
    (hends : ∀ body, last = .ok body → ∀ items next, readPage kind body ≠ .ok (items, some next)) :
    Reading kind base replies link [request] [] last where
  targets := by simp [hmethod, hurl]
  answers i := by
    cases i with
    | zero => simp [hlast]
    | succ i => simp
  linked body h := absurd h (List.not_mem_nil)
  ends := hends

/-- Reading that ends with a page: it has no link, or cannot be read. -/
theorem ended {body : Option Json} (hmethod : request.method = .get)
    (hurl : request.url = pageUrl base kind link)
    (hbody : pageOutcome kind request (replies 0) = .ok body)
    (hpage : ∀ items next, readPage kind body ≠ .ok (items, some next)) :
    Reading kind base replies link [request] [] (.ok body) :=
  single hmethod hurl hbody fun b hb => by
    cases hb
    exact hpage

/-- Reading that goes on after its first request. -/
theorem cons {body : Option Json} {items : List Json} {next : Path.Part}
    (hmethod : request.method = .get) (hurl : request.url = pageUrl base kind link)
    (hbody : pageOutcome kind request (replies 0) = .ok body)
    (hpage : readPage kind body = .ok (items, some next))
    (h : Reading kind base (fun i => replies (i + 1)) (some next) requests pages last) :
    Reading kind base replies link (request :: requests) (body :: pages) last where
  targets := by
    rw [List.map_cons, h.targets, List.map_cons (f := linkAfter), ← linkAfter_of_readPage hpage]
    simp [hmethod, hurl]
  answers i := by
    cases i with
    | zero => simp [hbody]
    | succ i => simpa using h.answers i
  linked b hb := by
    rcases List.mem_cons.mp hb with rfl | hb
    · exact ⟨items, next, hpage⟩
    · exact h.linked b hb
  ends := h.ends

/-- The first request is for the page at the link that reading starts from; each of
the others is for the page at the link of the page before. -/
theorem request_cases (h : Reading kind base replies link requests pages last) {i : Nat}
    (hi : requests[i]? = some request) :
    (request.method = .get ∧ request.url = pageUrl base kind link) ∨
      ∃ j previous body next, i = j + 1 ∧ requests[j]? = some previous ∧
        pageOutcome kind previous (replies j) = .ok body ∧ linkAfter body = some next ∧
        request.method = .get ∧ request.url = pageUrl base kind (some next) := by
  have htarget := congrArg (·[i]?) h.targets
  simp only [List.getElem?_map, hi, Option.map_some] at htarget
  cases i with
  | zero =>
    have hfirst : (request.method, request.url) = (.get, pageUrl base kind link) := by
      simpa using htarget
    exact .inl (Prod.mk.inj hfirst)
  | succ j =>
    rw [List.getElem?_cons_succ, List.getElem?_map, Option.map_map] at htarget
    obtain ⟨body, hbody, hrequest⟩ := Option.map_eq_some_iff.mp htarget.symm
    obtain ⟨items, next, hpage⟩ := h.linked body (List.mem_of_getElem? hbody)
    have hlink := (linkAfter_of_readPage hpage).symm
    have hlt := (List.getElem?_eq_some_iff.mp hbody).1
    have hanswer := h.answers j
    rw [List.getElem?_append_left (by simpa using hlt), List.getElem?_map, hbody] at hanswer
    obtain ⟨previous, hprevious, hpaged⟩ := Option.map_eq_some_iff.mp hanswer
    rw [Function.comp, hlink] at hrequest
    obtain ⟨hmethod, hurl⟩ := Prod.mk.inj hrequest
    exact .inr ⟨j, previous, body, next, rfl, hprevious, hpaged, hlink, hmethod.symm, hurl.symm⟩

/-- Where all answers can be read as pages, so can those of a reading. -/
theorem legible (h : Reading kind base replies link requests pages last)
    (hlegible : ∀ i request body, pageOutcome kind request (replies i) = .ok body →
      Legible kind body) :
    (∀ body ∈ pages, Legible kind body) ∧ ∀ body, last = .ok body → Legible kind body := by
  have key : ∀ (i : Nat) body, (pages.map Except.ok ++ [last])[i]? = some (.ok body) →
      Legible kind body := by
    intro i body hi
    obtain ⟨request, -, hr⟩ := Option.map_eq_some_iff.mp ((h.answers i).trans hi)
    exact hlegible i request body hr
  constructor
  · intro body hbody
    obtain ⟨i, hi⟩ := List.getElem?_of_mem hbody
    have hlt : i < (pages.map Except.ok : List Outcome).length := by
      rw [List.length_map]
      exact (List.getElem?_eq_some_iff.mp hi).1
    refine key i body ?_
    rw [List.getElem?_append_left hlt, List.getElem?_map, hi]
    rfl
  · rintro body rfl
    refine key pages.length body ?_
    simp

/-- Reading ends at the first page without a link, and gives all items. -/
theorem of_legible (h : Reading kind base replies link requests pages last)
    (hpages : ∀ body ∈ pages, Legible kind body)
    (hlast : ∀ body, last = .ok body → Legible kind body) :
    (∀ body ∈ pages, linkAfter body ≠ none) ∧ (∀ body, last = .ok body → linkAfter body = none) ∧
      readLast kind (pages.flatMap (itemsRead kind)) last = whole kind pages last := by
  have hitems : pages.flatMap (itemsRead kind) = pages.flatMap (itemsOf kind) := by
    refine List.flatMap_congr fun body hbody => ?_
    rw [itemsRead, readPage_of_legible (hpages body hbody)]
  refine ⟨fun body hbody hnone => ?_, fun body hbody => ?_, ?_⟩
  · obtain ⟨items, next, hpage⟩ := h.linked body hbody
    have hlink := linkAfter_of_readPage hpage
    rw [hnone] at hlink
    cases hlink
  · cases hlink : linkAfter body with
    | none => rfl
    | some next =>
      refine absurd ?_ (h.ends body hbody (itemsOf kind body) next)
      rw [readPage_of_legible (hlast body hbody), hlink]
  · rw [hitems]
    cases last with
    | error f => rfl
    | ok body => simp [readLast, whole, readPage_of_legible (hlast body rfl), Except.map]

end Reading

end ContainerInfra

/-! ## 3. Reading ends -/

namespace Cloud.State

open ContainerInfra

/-- The request for a page, what it comes to and which replies are left. -/
theorem page_exchange (kind : Kind) {s : State} {base : String}
    (hbase : s.baseOf containerInfra = .ok base) (link : Option Path.Part) :
    ∃ request, request.method = .get ∧ request.url = pageUrl base kind link ∧
      (s.exchange (pageAsk kind link)).1 = pageOutcome kind request (s.replyTo .get 0) ∧
      Frame s (s.exchange (pageAsk kind link)).2 [request] ∧
      (s.exchange (pageAsk kind link)).2.repliesFor .get = (s.repliesFor .get).tail := by
  have hservice : ∀ link, s.baseOf (pageAsk kind link).sender.service = .ok base := by
    rintro (_ | link) <;> exact hbase
  have hget : ∀ link, (pageAsk kind link).method = .get := by
    rintro (_ | link) <;> rfl
  have hleft := repliesFor_exchange (hservice link)
  rw [hget] at hleft
  rw [← nextReply_eq]
  cases link with
  | none =>
    obtain ⟨request, hans, hout, hframe⟩ := exchange_sent rfl (hservice none)
    exact ⟨request, hans.method, hans.url, hout, hframe, hleft⟩
  | some link =>
    rcases exchangeAt_cases (pageAsk kind (some link)) link s with
      ⟨hnone, -⟩ | ⟨request, hans, hout, hframe⟩
    · have hsome := isSome_find?_of_baseOf (hservice (some link))
      rw [hnone] at hsome
      cases hsome
    · exact ⟨request, hans.method, hans.url, hout.trans (pageOutcome_eq kind (some link) request _),
        hframe, hleft⟩

theorem replyTo_succ {m : Method} {s t : State} (h : t.repliesFor m = (s.repliesFor m).tail) :
    t.replyTo m = fun i => s.replyTo m (i + 1) := by
  funext i
  unfold replyTo
  rw [h, List.getElem?_tail]

/-- A page that was answered took a reply. -/
theorem repliesFor_ne_nil {kind : Kind} {s : State} {request : Request} {body : Option Json}
    (h : pageOutcome kind request (s.replyTo .get 0) = .ok body) : s.repliesFor .get ≠ [] := by
  intro hnil
  rw [replyTo, hnil] at h
  exact pageOutcome_missing kind request body h

/-- Reading the pages of a collection from a link on, behind items read already.
Each page takes a reply, so as many pages are enough as there are replies, and one
more. -/
theorem pages_reading {count : Nat} {kind : Kind} {s : State} {base : String}
    (hbase : s.baseOf containerInfra = .ok base) (hcount : (s.repliesFor .get).length < count)
    (link : Option Path.Part) (items : List Json) :
    ∃ requests pages last, Reading kind base (s.replyTo .get) link requests pages last ∧
      Frame s (s.pages count kind link items).2 requests ∧
      (s.pages count kind link items).1 =
        readLast kind (items ++ pages.flatMap (itemsRead kind)) last := by
  induction count generalizing s link items with
  | zero => exact absurd hcount (Nat.not_lt_zero _)
  | succ count ih =>
    obtain ⟨request, hmethod, hurl, hout, hframe, hleft⟩ := page_exchange kind hbase link
    unfold State.pages
    rcases he : s.exchange (pageAsk kind link) with ⟨o, t⟩
    rw [he] at hout hframe hleft
    cases o with
    | error f =>
      refine ⟨[request], [], .error f, .single hmethod hurl hout.symm ?_, hframe, rfl⟩
      intro body hbody
      cases hbody
    | ok body =>
      cases hpage : readPage kind body with
      | error f =>
        refine ⟨[request], [], .ok body, .ended hmethod hurl hout.symm ?_, ?_, ?_⟩
        · simp [hpage]
        · simpa only [hpage] using hframe
        · simp [readLast, hpage, Except.map]
      | ok page =>
        obtain ⟨more, next⟩ := page
        cases next with
        | none =>
          refine ⟨[request], [], .ok body, .ended hmethod hurl hout.symm ?_, ?_, ?_⟩
          · simp [hpage]
          · simpa only [hpage] using hframe
          · simp [readLast, hpage, Except.map]
        | some next =>
          -- the page took a reply, so those that are left are enough for the others
          have hsome := repliesFor_ne_nil hout.symm
          have hcount' : (t.repliesFor .get).length < count := by
            rw [hleft, List.length_tail]
            have := List.length_pos_iff.mpr hsome
            omega
          obtain ⟨requests, pages, last, hread, hrest, hresult⟩ :=
            ih ((hframe.baseOf _).trans hbase) hcount' (some next) (items ++ more)
          rw [replyTo_succ hleft] at hread
          refine ⟨request :: requests, body :: pages, last,
            .cons hmethod hurl hout.symm hpage hread, ?_, ?_⟩
          · simpa only [hpage, List.singleton_append] using hframe.trans hrest
          · have hitems : itemsRead kind body = more := by simp [itemsRead, hpage]
            simpa [hpage, hitems] using hresult

theorem collect_reading (kind : Kind) {s : State} {base : String}
    (hbase : s.baseOf containerInfra = .ok base) :
    ∃ requests pages last, Reading kind base (s.replyTo .get) none requests pages last ∧
      Frame s (s.collect kind).2 requests ∧
      (s.collect kind).1 = readLast kind (pages.flatMap (itemsRead kind)) last := by
  have hcount : (s.repliesFor .get).length < s.replies.length + 1 := by
    rw [repliesFor, List.length_map]
    exact Nat.lt_succ_of_le (List.length_filter_le _ _)
  simpa [collect] using pages_reading hbase hcount none []

end Cloud.State

end MagnumClient
