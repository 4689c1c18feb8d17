/-
MagnumClient.Proofs.Envelope — what every request carries, and where it goes.

All requests of the operations on a cloud, and of those of the service, are put together by
the client in one way: from its settings, the token of the moment and the headers of the
service. `Request.Carries` is what comes of that. It needs that the service is the built-in
one (`Client.Serves`), so no other may be registered under its name.

Where a request goes is a matter of the operation: to one of the places that the service has
at its endpoint (`Place`), or, behind a page of a collection, to the link on that page
(`Follows`). Both are said of every request of a part of a call (`Conforms`), which is closed
under doing one part after the other, so a whole call is settled by induction over its tree.

A link is followed as a path is joined, so to the letter unless it has doubled slashes.
`doubled_link_rewritten` is a link that has.
-/
import MagnumClient.Proofs.Links
import MagnumClient.Proofs.Orderly
import MagnumClient.Proofs.Replies
import MagnumClient.Proofs.Traffic

namespace MagnumClient

/-! ## 1. What a request carries -/

/-- A request carries the version of the interface, the token unless that is empty, and the
time limit. -/
structure Request.Carries (settings : Settings) (token : String) (r : Request) : Prop where
  version : r.headers.get? versionHeader = some ("container-infra " ++ settings.apiVersion)
  token : r.headers.get? tokenHeader = if token = "" then none else some token
  timeout : r.timeout = settings.timeout

namespace Headers

/-- A header of a new name comes last. -/
theorem put_of_new {name : String} {value : Option String} {headers : Headers}
    (h : ∀ f ∈ headers, f.1.toLower ≠ name.toLower) :
    put name value headers = headers ++ [(name, value)] := by
  induction headers with
  | nil => rfl
  | cons f rest ih =>
    obtain ⟨hf, hrest⟩ := List.forall_mem_cons.mp h
    rw [put, if_neg hf, ih hrest, List.cons_append]

/-- A header that is set is read, and the others are read as before. -/
theorem get?_append_of_new {name : String} {headers : Headers} (more : Headers)
    (h : ∀ f ∈ headers, f.1.toLower ≠ name.toLower) :
    get? name (headers ++ more) = get? name more := by
  induction headers with
  | nil => rfl
  | cons f rest ih =>
    obtain ⟨hf, hrest⟩ := List.forall_mem_cons.mp h
    rw [List.cons_append, get?, if_neg hf, ih hrest]

@[simp] theorem get?_cons_self (name : String) (value : Option String) (headers : Headers) :
    get? name ((name, value) :: headers) = value := if_pos rfl

theorem version_new : ∀ f ∈ standard, f.1.toLower ≠ versionHeader.toLower := by decide +kernel

theorem token_new (version : String) :
    ∀ f ∈ standard ++ [(versionHeader, some version)], f.1.toLower ≠ tokenHeader.toLower := by
  intro f hf
  rcases List.mem_append.mp hf with hf | hf
  · exact (by decide +kernel : ∀ f ∈ standard, f.1.toLower ≠ tokenHeader.toLower) f hf
  · obtain rfl := List.mem_singleton.mp hf
    exact (by decide +kernel : versionHeader.toLower ≠ tokenHeader.toLower)

/-- The headers of a request of the built-in service. -/
theorem putAll_auth (version token : String) :
    putAll ((Fields.ofPairs [(versionHeader, .str version)]).overlay
        (if token.isEmpty then [] else [(tokenHeader, .str token)])) standard =
      standard ++ [(versionHeader, some version)] ++
        if token = "" then [] else [(tokenHeader, some token)] := by
  have hversion : put versionHeader (some version) standard =
      standard ++ [(versionHeader, some version)] := put_of_new version_new
  by_cases ht : token = ""
  · subst ht
    rw [if_pos rfl, List.append_nil]
    exact hversion
  · have hempty : token.isEmpty = false := by simpa using ht
    have hfields : (Fields.ofPairs [(versionHeader, .str version)]).overlay
        [(tokenHeader, .str token)] =
          [(versionHeader, .str version), (tokenHeader, .str token)] := by
      have hlast : Fields.precedes tokenHeader versionHeader = false := by decide +kernel
      have hother : versionHeader ≠ tokenHeader := by decide
      simp [Fields.ofPairs, Fields.overlay, Fields.put, Fields.has, Fields.get?, Fields.insert,
        hlast, hother]
    rw [hempty, if_neg Bool.false_ne_true, hfields, if_neg ht]
    show put tokenHeader (some token) (put versionHeader (some version) standard) = _
    rw [hversion, put_of_new (token_new version)]

end Headers

/-- A client has these settings and this token, and the service of the settings is the one
that goes by the name of the built-in one. -/
structure Client.Serves (settings : Settings) (token : String) (c : Client) : Prop where
  sameSettings : c.settings = settings
  sameToken : c.token = token
  service : ∀ i, c.find? containerInfra = some i →
    (c.services[i]?).map Service.face = some (Service.ofSettings settings).face
  found : (c.find? containerInfra).isSome = true

namespace Client

variable {settings : Settings} {token : String} {c c' : Client}

theorem serves_start (settings : Settings) : (start settings).Serves settings settings.token where
  sameSettings := rfl
  sameToken := rfl
  service i h := by
    obtain rfl : 0 = i := Option.some.inj h
    rfl
  found := rfl

theorem Serves.congr (h : c.Serves settings token) (hface : c'.face = c.face) :
    c'.Serves settings token where
  sameSettings := (congrArg (·.1) hface).trans h.sameSettings
  sameToken := (congrArg (·.2.1) hface).trans h.sameToken
  service i hi := by
    rw [find?_congr hface] at hi
    rw [← h.service i hi, ← List.getElem?_map, ← List.getElem?_map]
    exact congrArg (·.2.2[i]?) hface
  found := by rw [find?_congr hface, h.found]

theorem Serves.setToken (h : c.Serves settings token) (t : String) :
    ({ c with token := t }).Serves settings t :=
  ⟨h.sameSettings, rfl, h.service, h.found⟩

/-- A service of another name is not found under this one. -/
theorem find?_register_of_ne {x : Service} {name : String} (h : x.name ≠ name) (c : Client) :
    (c.register x).find? name = c.find? name := by
  unfold find? register
  rw [List.zipIdx_append, List.filter_append]
  simp [h]

theorem Serves.register (h : c.Serves settings token) {x : Service} (hx : x.name ≠ containerInfra) :
    (c.register x).Serves settings token where
  sameSettings := h.sameSettings
  sameToken := h.sameToken
  service i hi := by
    rw [find?_register_of_ne hx] at hi
    obtain ⟨y, hy, -⟩ := getElem?_of_find? hi
    rw [← h.service i hi]
    show ((c.services ++ [x])[i]?).map _ = _
    rw [List.getElem?_append_left (List.getElem?_eq_some_iff.mp hy).1]
  found := by rw [find?_register_of_ne hx, h.found]

/-- What a client asks on behalf of a service with the headers of the built-in one carries
what it should. -/
theorem Serves.carries (h : c.Serves settings token) {i : Nat} {service : Service}
    (hfind : c.find? containerInfra = some i) (hservice : c.services[i]? = some service)
    {ask : Ask} (hchoices : ask.choices = .usual) (base : Path.Part) :
    (c.request ask base service).Carries settings token := by
  have hface := h.service i hfind
  rw [hservice] at hface
  have hheaders : service.headers =
      [(versionHeader, .str ("container-infra " ++ settings.apiVersion))] :=
    congrArg (·.2.2) (Option.some.inj hface)
  have hsent : (c.request ask base service).headers = Headers.standard ++
      [(versionHeader, some ("container-infra " ++ settings.apiVersion))] ++
        if token = "" then [] else [(tokenHeader, some token)] := by
    rw [← Headers.putAll_auth, ← hheaders, ← h.sameToken]
    simp only [request, headersFor, hchoices]
    rfl
  refine ⟨?_, ?_, ?_⟩
  · rw [hsent, List.append_assoc, Headers.get?_append_of_new _ Headers.version_new]
    exact Headers.get?_cons_self ..
  · rw [hsent, Headers.get?_append_of_new _ (Headers.token_new _)]
    split
    · rfl
    · exact Headers.get?_cons_self ..
  · rw [request, hchoices]
    exact congrArg Settings.timeout h.sameSettings

/-- The endpoint is that of the settings. -/
theorem Serves.base {i : Nat} (h : c.Serves settings token)
    (hfind : c.find? containerInfra = some i) :
    (c.services[i]?).map Service.base = some settings.endpoint := by
  have hface := congrArg (Option.map fun x : String × String × Fields => x.2.1) (h.service i hfind)
  rwa [Option.map_map] at hface

end Client

/-! ## 2. Where it goes -/

/-- A request goes to one of the places of the service at an endpoint. -/
def Request.AtPlace (endpoint : String) (r : Request) : Prop :=
  ∃ place, Place r.method place ∧ r.url = Path.join [.segment endpoint, .segment place]

/-- What a page says of the page after it. -/
def Response.next? (page : Response) : Option Json :=
  ((decoded false page.data).bind (Json.field? "next")).filter Json.isTruthy

/-- A request goes to the link on the page that answered the request right before it, and it
does so to the letter iff the link has no doubled slashes. -/
inductive Follows (replies : List Reply) (sent : List Request) : Nat → Request → Prop where
  | link {j : Nat} {r previous : Request} {page : Response} {next : Json}
    (hprevious : sent[j]? = some previous) (hget : previous.method = .get)
    (hpage : replies[j]? = some (.answer page)) (haccepted : ¬ page.status ≥ refusalStatus)
    (hnext : page.next? = some next) (hmethod : r.method = .get)
    (hurl : r.url = Path.join [.ofJson next, .segment ""])
    (hletter : ∀ text, next = .str text → (r.url = text ↔ ¬ Path.Doubled text)) :
    Follows replies sent (j + 1) r

namespace Follows

variable {replies : List Reply} {sent : List Request} {i : Nat} {r : Request}

/-- What comes before and after in the traffic is no business of it. -/
theorem append_left (h : Follows replies sent i r) (before : List Request) (more : List Reply)
    (hlength : more.length = before.length) :
    Follows (more ++ replies) (before ++ sent) (before.length + i) r := by
  cases h with
  | @link j _ previous page next hprevious hget hpage haccepted hnext hmethod hurl hletter =>
    refine .link (j := before.length + j) ?_ hget ?_ haccepted hnext hmethod hurl hletter
    · rw [List.getElem?_append_right (Nat.le_add_right ..), Nat.add_sub_cancel_left, hprevious]
    · rw [← hlength, List.getElem?_append_right (Nat.le_add_right ..), Nat.add_sub_cancel_left,
        hpage]

theorem append_right (h : Follows replies sent i r) (after : List Request) (more : List Reply) :
    Follows (replies ++ more) (sent ++ after) i r := by
  cases h with
  | link hprevious hget hpage haccepted hnext hmethod hurl hletter =>
    refine .link ?_ hget ?_ haccepted hnext hmethod hurl hletter
    · rw [List.getElem?_append_left (List.getElem?_eq_some_iff.mp hprevious).1, hprevious]
    · rw [List.getElem?_append_left (List.getElem?_eq_some_iff.mp hpage).1, hpage]

end Follows

namespace ContainerInfra

/-- The link that is read of a page is the one that the page names. -/
theorem linkAfter_decoded {page : Response} {link : Path.Part}
    (h : linkAfter (decoded false page.data) = some link) :
    ∃ next, page.next? = some next ∧ link = .ofJson next := by
  unfold linkAfter nextLink at h
  obtain ⟨body, hbody, hlink⟩ := Option.bind_eq_some_iff.mp h
  obtain ⟨next, hnext, rfl⟩ := Option.map_eq_some_iff.mp hlink
  refine ⟨next, ?_, rfl⟩
  rw [Response.next?, (Option.filter_eq_some_iff.mp hbody).1]
  exact hnext

/-- The request for the page at the link on a page follows it. -/
theorem follows_page {replies : List Reply} {sent : List Request} {j : Nat}
    {previous r : Request} {page : Response} {link : Path.Part}
    (hprevious : sent[j]? = some previous) (hget : previous.method = .get)
    (hpage : replies[j]? = some (.answer page)) (haccepted : ¬ page.status ≥ refusalStatus)
    (hlink : linkAfter (decoded false page.data) = some link) (hmethod : r.method = .get)
    (hurl : r.url = Path.join [link, .segment ""]) : Follows replies sent (j + 1) r := by
  obtain ⟨next, hnext, rfl⟩ := linkAfter_decoded hlink
  refine .link hprevious hget hpage haccepted hnext hmethod hurl ?_
  rintro text rfl
  rw [hurl]
  exact Path.join_link_eq_iff text

/-- A body is read of an answer only, and of one that is no refusal. -/
theorem exists_answer_of_outcome {ask : Ask} {request : Request} {reply : Reply}
    {body : Option Json} (hask : ask.choices.verbatim = false)
    (h : (outcome ask request reply).mapError Failure.toCloud = .ok body) :
    ∃ page, reply = .answer page ∧ ¬ page.status ≥ refusalStatus ∧
      body = decoded false page.data := by
  cases reply with
  | answer page =>
    by_cases hstatus : page.status ≥ refusalStatus
    · rw [outcome, if_pos hstatus] at h
      cases h
    · rw [outcome, if_neg hstatus, hask] at h
      exact ⟨page, rfl, hstatus, (Except.ok.inj h).symm⟩
  | lost message code => cases h
  | fails f => cases f <;> cases h

end ContainerInfra

/-! ## 3. What calls send -/

namespace Cloud.State

open ContainerInfra

variable {settings : Settings} {token : String}

theorem baseOf_of_serves {s : State} (h : s.client.Serves settings token) :
    s.baseOf containerInfra = .ok settings.endpoint := by
  obtain ⟨i, hi⟩ := Option.isSome_iff_exists.mp h.found
  simp only [baseOf_eq, hi, h.base hi]
  rfl

/-- A request for the service is one that carries what it should and is what was asked for,
at the endpoint if it is for no other base. -/
theorem exchange_carries {s : State} (h : s.client.Serves settings token) {ask : Ask}
    (hservice : ask.sender.service = containerInfra) (hchoices : ask.choices = .usual) :
    ∃ r : Request, Sends s [r] (s.exchange ask).2 ∧
      (s.exchange ask).2.client.face = s.client.face ∧ r.Carries settings token ∧
      r.method = ask.method ∧
      r.url = Path.join [ask.base.getD (.segment settings.endpoint), ask.place] ∧
      (s.exchange ask).1 =
        (outcome ask r (firstReply ask.method s.replies)).mapError Failure.toCloud := by
  obtain ⟨_, hframe, -⟩ := exchange_frame ask s
  have hface := hframe.face
  have hexchanged := exchanged_exchange ask s
  have hbase : s.baseFor ask = ask.base.getD (.segment settings.endpoint) := by
    unfold baseFor
    cases ask.base with
    | some base => rfl
    | none =>
      rw [hservice]
      show Path.Part.segment ((s.baseOf containerInfra).toOption.getD "") = _
      rw [baseOf_of_serves h]
      rfl
  rw [hbase] at hexchanged
  generalize (s.exchange ask).1 = o, (s.exchange ask).2 = t at hface hexchanged ⊢
  cases hexchanged with
  | unsent hfind _ =>
    have hfound := h.found
    rw [← hservice, hfind] at hfound
    cases hfound
  | sent hc hfind hx hsends =>
    rw [hservice] at hfind
    exact ⟨_, hsends, hface, (h.congr hc).carries hfind hx hchoices _, rfl, rfl, rfl⟩

/-- The requests that were sent between two states carry what they should, and each goes to
a place of the service or follows the link on the page before it. -/
def Conforms (settings : Settings) (token : String) (s t : State) : Prop :=
  ∃ added, Sends s added t ∧ t.client.face = s.client.face ∧
    ∀ (i : Nat) r, added[i]? = some r → r.Carries settings token ∧
      (r.AtPlace settings.endpoint ∨
        Follows (met s.replies (added.map Request.method)) added i r)

namespace Conforms

variable {s t u : State}

theorem face (h : Conforms settings token s t) : t.client.face = s.client.face := by
  obtain ⟨-, -, hface, -⟩ := h
  exact hface

theorem of_unsent (h : Sends s [] t) (hface : t.client.face = s.client.face) :
    Conforms settings token s t :=
  ⟨[], h, hface, by simp⟩

/-- One part after the other. -/
theorem trans (h : Conforms settings token s t) (h' : Conforms settings token t u) :
    Conforms settings token s u := by
  obtain ⟨added, hs, hface, hadded⟩ := h
  obtain ⟨more, hs', hface', hmore⟩ := h'
  refine ⟨added ++ more, hs.trans hs', hface'.trans hface, fun i r hr => ?_⟩
  rw [List.map_append, hs.met_append]
  rcases Nat.lt_or_ge i added.length with hi | hi
  · rw [List.getElem?_append_left hi] at hr
    exact (hadded i r hr).imp_right (.imp_right (·.append_right _ _))
  · rw [List.getElem?_append_right hi] at hr
    obtain ⟨j, rfl⟩ := Nat.exists_eq_add_of_le hi
    rw [Nat.add_sub_cancel_left] at hr
    exact (hmore j r hr).imp_right (.imp_right (·.append_left added _ (by simp)))

end Conforms

theorem conforms_exchange {s : State} (h : s.client.Serves settings token) {ask : Ask}
    (hask : ask.Plain) : Conforms settings token s (s.exchange ask).2 := by
  obtain ⟨r, hsends, hface, hcarries, hmethod, hurl, -⟩ :=
    exchange_carries h hask.service hask.choices
  obtain ⟨place, hplace, hmem⟩ := hask.place
  refine ⟨[r], hsends, hface, fun i request hrequest => ?_⟩
  obtain ⟨rfl, rfl⟩ : i = 0 ∧ r = request := by simpa [List.getElem?_singleton] using hrequest
  refine ⟨hcarries, .inl ⟨place, by rwa [hmethod], ?_⟩⟩
  rw [hurl, hask.base, hplace]
  rfl

/-- Reading pages from a link on: the first request is for the page there, and each of the
others follows the link on the page before it. -/
theorem pages_follow (count : Nat) (kind : Kind) (link : Option Path.Part) (items : List Json)
    {s : State} (h : s.client.Serves settings token) :
    ∃ added, Sends s added (s.pages count kind link items).2 ∧
      (s.pages count kind link items).2.client.face = s.client.face ∧
      ∀ (i : Nat) r, added[i]? = some r → r.Carries settings token ∧ r.method = .get ∧
        ((i = 0 ∧ r.url = pageUrl settings.endpoint kind link) ∨
          Follows (met s.replies (added.map Request.method)) added i r) := by
  induction count generalizing link items s with
  | zero => exact ⟨[], .refl s, rfl, by simp⟩
  | succ count ih =>
    obtain ⟨first, hsends, hface, hcarries, hmethod, hurl, ho⟩ :=
      exchange_carries h (service_pageAsk kind link) (choices_pageAsk kind link)
    have hget : first.method = .get := by cases link <;> exact hmethod
    have hpage : first.url = pageUrl settings.endpoint kind link := by cases link <;> exact hurl
    have hone : ∀ (i : Nat) r, [first][i]? = some r → r.Carries settings token ∧ r.method = .get ∧
        ((i = 0 ∧ r.url = pageUrl settings.endpoint kind link) ∨
          Follows (met s.replies ([first].map Request.method)) [first] i r) := by
      intro i r hr
      obtain ⟨rfl, rfl⟩ : i = 0 ∧ first = r := by simpa [List.getElem?_singleton] using hr
      exact ⟨hcarries, hget, .inl ⟨rfl, hpage⟩⟩
    unfold pages
    rcases he : s.exchange (pageAsk kind link) with ⟨o, t⟩
    rw [he] at hsends hface ho
    cases o with
    | error f => exact ⟨[first], hsends, hface, hone⟩
    | ok data =>
      cases hread : readPage kind data with
      | error f => simpa only [hread] using ⟨[first], hsends, hface, hone⟩
      | ok read =>
        obtain ⟨more, next⟩ := read
        cases next with
        | none => simpa only [hread] using ⟨[first], hsends, hface, hone⟩
        | some next =>
          obtain ⟨rest, hrest, hface', hall⟩ := ih (some next) (items ++ more) (h.congr hface)
          refine ⟨[first] ++ rest, by simpa only [hread] using hsends.trans hrest,
            by simpa only [hread] using hface'.trans hface, fun i r hr => ?_⟩
          rw [List.map_append, hsends.met_append]
          cases i with
          | zero =>
            obtain rfl : first = r := Option.some.inj hr
            exact ⟨hcarries, hget, .inl ⟨rfl, hpage⟩⟩
          | succ j =>
            obtain ⟨hr', hget', hwhere⟩ := hall j r hr
            refine ⟨hr', hget', .inr ?_⟩
            rcases hwhere with ⟨rfl, hlink⟩ | hfollows
            · -- the page that was just read has the link
              obtain ⟨page, hreply, haccepted, rfl⟩ :=
                exists_answer_of_outcome (by rw [choices_pageAsk]; rfl) ho.symm
              have hmet : (met s.replies ([first].map Request.method) ++
                  met t.replies (rest.map Request.method))[0]? = some (.answer page) := by
                rw [← hreply, show (pageAsk kind link).method = first.method from hmethod.symm]
                rfl
              exact follows_page rfl hget hmet haccepted (linkAfter_of_readPage hread).symm hget'
                hlink
            · have := hfollows.append_left [first]
                (met s.replies ([first].map Request.method)) (by simp)
              rwa [List.length_singleton, Nat.add_comm] at this

theorem conforms_collect (kind : Kind) {s : State} (h : s.client.Serves settings token) :
    Conforms settings token s (s.collect kind).2 := by
  obtain ⟨added, hsends, hface, hall⟩ := pages_follow (s.replies.length + 1) kind none [] h
  refine ⟨added, hsends, hface, fun i r hr => ?_⟩
  obtain ⟨hcarries, hget, ⟨-, hurl⟩ | hfollows⟩ := hall i r hr
  · exact ⟨hcarries, .inl ⟨kind.place, by rw [hget]; exact .list kind, hurl⟩⟩
  · exact ⟨hcarries, .inr hfollows⟩

theorem conforms_listing (kind : Kind) {s : State} (h : s.client.Serves settings token) :
    Conforms settings token s (s.listing kind).2 := by
  cases hfresh : s.fresh? kind with
  | some flight =>
    rw [listing_of_fresh hfresh]
    exact .of_unsent (.refl s) rfl
  | none =>
    rw [listing_eq hfresh]
    have hbegin := SameTraffic.begin kind s
    have hland := SameTraffic.land s.flights.length ((s.begin kind).2.collect kind).1
      ((s.begin kind).2.collect kind).2
    have hserves := h.congr (congrArg Client.face hbegin.client)
    exact ((Conforms.of_unsent (.of_traffic hbegin) (congrArg Client.face hbegin.client)).trans
      (conforms_collect kind hserves)).trans
        (.of_unsent (.of_traffic hland) (congrArg Client.face hland.client))

end Cloud.State

namespace Cloud

open State

/-- All requests of an orderly call carry what they should and go where they should. -/
theorem conforms_run {settings : Settings} {token : String} {c : Call} (hc : c.Orderly) {s : State}
    (h : s.client.Serves settings token) : Conforms settings token s (run c s).2 := by
  induction c generalizing s with
  | done o => exact .of_unsent (.refl s) rfl
  | exchange ask next ih =>
    have hfirst := conforms_exchange h hc.1
    exact hfirst.trans (ih _ (hc.2.2 _) (h.congr hfirst.face))
  | collect kind next ih =>
    have hfirst := conforms_collect kind h
    exact hfirst.trans (ih _ (hc.2 _) (h.congr hfirst.face))
  | listing kind next ih =>
    have hfirst := conforms_listing kind h
    exact hfirst.trans (ih _ (hc.2 _) (h.congr hfirst.face))
  | forget kind next ih =>
    have htraffic := SameTraffic.modifyMemo kind .invalidate s
    have hface := congrArg Client.face htraffic.client
    exact (Conforms.of_unsent (.of_traffic htraffic) hface).trans (ih hc (h.congr hface))
  | note message next ih =>
    have hfirst : Conforms settings token s (s.note message) :=
      .of_unsent (sends_note message s) rfl
    exact hfirst.trans (ih hc h)

end Cloud

/-! ## 4. Sessions -/

/-- A command of the cloud, the service or the client that neither sends a request of the
caller's own nor puts another client or another service in the place of the built-in one. -/
def Command.plain : Command → Bool
  | .request _ => false
  | .initInstance _ => false
  | .addService name _ _ => name != containerInfra
  | _ => true

namespace Session

/-- Such a command, or time that passes. -/
def Step.plain : Step → Bool
  | .command c _ => c.plain
  | .advance _ => true

/-- The token that a step sets, if it sets one. -/
def Step.token? : Step → Option String
  | .command (.setToken token) _ => some token
  | _ => none

/-- The token that was set last, or the one that there was at first. -/
def lastToken (first : String) (steps : List Step) : String :=
  ((steps.filterMap Step.token?).getLast?).getD first

theorem lastToken_cons (first : String) (x : Step) (steps : List Step) :
    lastToken first (x :: steps) = lastToken ((x.token?).getD first) steps := by
  unfold lastToken
  cases h : x.token? with
  | none => rw [List.filterMap_cons_none h, Option.getD_none]
  | some token =>
    rw [List.filterMap_cons_some h, List.getLast?_cons, Option.getD_some, Option.getD_some]

theorem orderly_of_plain {s : Session} {c : Command} {call : Call} (hc : c.plain = true)
    (h : s.call? c = some call) : call.Orderly := by
  cases c with
  | cloud op =>
    obtain rfl := Option.some.inj h
    exact Cloud.orderly_operation s.place op
  | normalizedClusters =>
    obtain rfl := Option.some.inj h
    exact Cloud.orderly_normalized s.strict s.place
  | service op =>
    obtain rfl := Option.some.inj h
    exact ContainerInfra.orderly_operation op
  | request ask => cases hc
  | _ => cases h

section

variable {settings : Settings} {token : String}

theorem serves_perform {s : Session} (h : s.client.Serves settings token) {c : Command}
    (hc : c.plain = true) (replies : List Prepared) :
    (s.perform c).2.client.Serves settings (((Step.command c replies).token?).getD token) := by
  cases hcall : s.call? c with
  | some call =>
    rw [perform_of_call hcall]
    have hnone : (Step.command c replies).token? = none := by
      cases c <;> first | rfl | cases hcall
    rw [hnone]
    exact h.congr (Cloud.face_run call s.state)
  | none =>
    rw [perform_of_none hcall]
    cases c with
    | setToken t => exact h.setToken t
    | endpointOf name => exact h.congr (Cloud.State.frame_endpointOf name s.state).face
    | ownEndpoint => exact h.congr (Cloud.State.frame_endpoint 0 s.state).face
    | addService name endpoint headers =>
      exact h.register (by simpa [Command.plain, Service.custom] using hc)
    | initInstance settings => cases hc
    | sharedInstance =>
      show (if s.shared then s.answer _ else (.error noInstance, s)).2.client.Serves _ _
      split <;> exact h
    | _ => exact h

theorem serves_play {s : Session} {first : String} (h : s.client.Serves settings first)
    {steps : List Step} (hsteps : ∀ x ∈ steps, x.plain = true) :
    (s.play steps).client.Serves settings (lastToken first steps) := by
  induction steps generalizing s first with
  | nil => exact h
  | cons x xs ih =>
    obtain ⟨hx, hxs⟩ := List.forall_mem_cons.mp hsteps
    rw [lastToken_cons]
    refine ih ?_ hxs
    cases x with
    | command c replies => exact serves_perform (s := s.fresh replies) h hx replies
    | advance ms => exact h

end

/-- What is no call sends nothing. -/
theorem sent_atOnce (c : Command) (s : Session) : (s.atOnce c).2.state.sent = s.state.sent := by
  cases c with
  | endpointOf name =>
    exact (Cloud.State.frame_endpointOf name s.state).sent.trans (List.append_nil _)
  | ownEndpoint => exact (Cloud.State.frame_endpoint 0 s.state).sent.trans (List.append_nil _)
  | initInstance settings =>
    show (s.initInstance settings).state.sent = _
    unfold initInstance
    split <;> rfl
  | sharedInstance =>
    show (if s.shared then s.answer _ else (.error noInstance, s)).2.state.sent = _
    split <;> rfl
  | _ => rfl

/-- Every request of a session carries the version of the interface, the time limit, and the
token that was set last before it, unless that is empty. It goes to a place of the service at
the endpoint, or it follows the link on the page before it, to the letter iff the link has no
doubled slashes. -/
theorem request_carries_and_goes (settings : Settings) (strict : Bool) (place : Json)
    (cacheExpiration : Option Float) (clock : Float) (before : List Step)
    (hbefore : ∀ x ∈ before, x.plain = true) (c : Command) (hc : c.plain = true)
    (replies : List Prepared) {t : Session}
    (ht : ((((start settings strict place cacheExpiration clock).play before).fresh
      replies).perform c).2 = t)
    {i : Nat} {r : Request} (hr : t.state.sent[i]? = some r) :
    r.Carries settings (lastToken settings.token before) ∧
      (r.AtPlace settings.endpoint ∨
        Follows (met replies (t.state.sent.map Request.method)) t.state.sent i r) := by
  have hserves := serves_play (s := start settings strict place cacheExpiration clock)
    (Client.serves_start settings) hbefore
  generalize (start settings strict place cacheExpiration clock).play before = s at ht hserves
  subst ht
  cases hcall : (s.fresh replies).call? c with
  | none =>
    rw [perform_of_none hcall, sent_atOnce] at hr
    cases hr
  | some call =>
    obtain ⟨added, hsends, -, hall⟩ :=
      Cloud.conforms_run (s := (s.fresh replies).state) (orderly_of_plain hc hcall) hserves
    have hsent : ((s.fresh replies).perform c).2.state.sent = added := by
      rw [perform_of_call hcall]
      exact hsends.sent
    rw [hsent] at hr ⊢
    exact hall i r hr

/-- The second page is asked for with the token that was set before. -/
theorem second_page_carries_new_token :
    (∀ x ∈ [Step.command (.setToken "renewed") []], x.plain = true) ∧
    Command.plain (.cloud (.list .cluster)) = true ∧
    ∃ r, ((((cloudAt "https://[::1]/v1").play [Step.command (.setToken "renewed") []]).fresh
        (linkedPages "https://[::1]/v1/clusters?marker=c-1")).perform
          (.cloud (.list .cluster))).2.state.sent[1]? = some r ∧
      r.headers.get? tokenHeader = some "renewed" := by
  have hplain : ∀ x ∈ [Step.command (.setToken "renewed") []], x.plain = true := by
    simp [Step.plain, Command.plain]
  obtain ⟨r, hr⟩ := Option.isSome_iff_exists.mp
    (show (((((cloudAt "https://[::1]/v1").play [Step.command (.setToken "renewed") []]).fresh
        (linkedPages "https://[::1]/v1/clusters?marker=c-1")).perform
          (.cloud (.list .cluster))).2.state.sent[1]?).isSome = true by decide +kernel)
  exact ⟨hplain, rfl, r, hr,
    (request_carries_and_goes ⟨"https://[::1]/v1", "token", "latest", 5000⟩ false .null none 0 _
      hplain (.cloud (.list .cluster)) rfl _ rfl hr).1.token⟩

/-- A link with doubled slashes is not followed to the letter, and where the request goes
instead is no place of the service either. -/
theorem doubled_link_rewritten :
    ∃ r, (((cloudAt "https://[::1]/v1").fresh
        (linkedPages "https://[::1]/v1//clusters?marker=c-1")).perform
          (.cloud (.list .cluster))).2.state.sent[1]? = some r ∧
      r.url ≠ "https://[::1]/v1//clusters?marker=c-1" ∧ ¬ r.AtPlace "https://[::1]/v1" := by
  obtain ⟨r, hr, htarget⟩ := Option.map_eq_some_iff.mp
    (show ((((cloudAt "https://[::1]/v1").fresh
        (linkedPages "https://[::1]/v1//clusters?marker=c-1")).perform
          (.cloud (.list .cluster))).2.state.sent[1]?).map (fun r => (r.method, r.url)) =
        some (.get, "https://[::1]/v1/clusters?marker=c-1") by decide +kernel)
  obtain ⟨hmethod, hurl⟩ := Prod.mk.inj htarget
  refine ⟨r, hr, by rw [hurl]; decide, ?_⟩
  rintro ⟨place, hplace, hjoin⟩
  rw [hmethod] at hplace
  rw [hurl] at hjoin
  cases hplace with
  | list kind => cases kind <;> exact absurd hjoin (by decide +kernel)
  | services => exact absurd hjoin (by decide +kernel)
  | certificate clusterId =>
    -- however the identifier goes on, the place before it shows in the URL
    have hfront : "https://[::1]/v1/certificates/".toList <+:
        "https://[::1]/v1/clusters?marker=c-1".toList := by
      rw [hjoin, Path.toList_join (by decide) (by simp), String.toList_append, ← List.cons_append,
        ← List.append_assoc, Path.shorten_append]
      exact ⟨_, congrArg (· ++ _) (by decide +kernel)⟩
    exact absurd hfront (by decide +kernel)

end Session

end MagnumClient
