/-
MagnumClient.Proofs.Following — which request follows a page.

A page of a collection that can be read gives the place of the page after it, and if that is a
text, it is a whole URL (`ContainerInfra.Gives`). The request that follows goes there
(`Request.FollowsLink`), but the URL is put together as a path is joined. So it is the link
character for character iff the link has no doubled slashes; they may stand in its path or in
its query, in a marker for instance, and go missing alike.

`followed` says so of every place in a reading (`Reading`), and `act_page` of every turn in which
a page is read while other calls are under way. `link_followed_iff` puts them together.
-/
import MagnumClient.Proofs.Envelope

namespace MagnumClient

/-! ## 1. Links -/

/-- A page of a collection can be read, and gives a text as the place of the page after it. -/
structure ContainerInfra.Gives (kind : Kind) (page : Response) (text : String) : Prop where
  accepted : ¬ page.status ≥ refusalStatus
  next : page.next? = some (.str text)
  legible : ∃ items link, ContainerInfra.readPage kind (decoded false page.data) = .ok (items, link)

/-- A request goes where a link says, as the link is joined: to the letter iff the link has no
doubled slashes. -/
structure Request.FollowsLink (text : String) (r : Request) : Prop where
  method : r.method = .get
  url : r.url = Path.join [.segment text, .segment ""]
  letter : r.url = text ↔ ¬ Path.Doubled text

namespace ContainerInfra

variable {kind : Kind} {page : Response} {text : String}

theorem followsLink {r : Request} (hmethod : r.method = .get)
    (hurl : r.url = Path.join [.segment text, .segment ""]) : r.FollowsLink text :=
  ⟨hmethod, hurl, by rw [hurl, Path.join_link_eq_iff]⟩

/-- The link that a page gives is the one that is read of it. -/
theorem Gives.linkAfter (h : Gives kind page text) :
    linkAfter (decoded false page.data) = some (.segment text) := by
  obtain ⟨hnext, htruthy⟩ := Option.filter_eq_some_iff.mp h.next
  obtain ⟨body, hbody, hfield⟩ := Option.bind_eq_some_iff.mp hnext
  have hrecord : body.isTruthy = true := by
    cases body with
    | obj fields => rfl
    | _ => cases hfield
  rw [hbody, ContainerInfra.linkAfter]
  simp [Option.filter, hrecord, nextLink, hfield, htruthy, Path.Part.ofJson]

theorem Gives.readPage (h : Gives kind page text) :
    ∃ items, readPage kind (decoded false page.data) = .ok (items, some (.segment text)) := by
  obtain ⟨items, link, hread⟩ := h.legible
  exact ⟨items, by rw [hread, linkAfter_of_readPage hread, h.linkAfter]⟩

/-- Behind a page that gives a link there is a request that follows it. -/
theorem Reading.followed {base : String} {replies : Nat → Reply} {link : Option Path.Part}
    {requests : List Request} {pages : List (Option Json)} {last : Outcome}
    (h : Reading kind base replies link requests pages last) {i : Nat} (hi : i < requests.length)
    (hreply : replies i = .answer page) (hgives : Gives kind page text) :
    ∃ r, requests[i + 1]? = some r ∧ r.FollowsLink text := by
  obtain ⟨items, hread⟩ := hgives.readPage
  have hanswer := h.answers i
  rw [List.getElem?_eq_getElem hi, Option.map_some, hreply,
    pageOutcome_answer hgives.accepted] at hanswer
  -- the page is not the last, since a last page that is read has no link
  have hpage : pages[i]? = some (decoded false page.data) := by
    by_cases hlt : i < pages.length
    · rw [List.getElem?_append_left (by simpa using hlt), List.getElem?_map] at hanswer
      obtain ⟨body, hbody, hok⟩ := Option.map_eq_some_iff.mp hanswer.symm
      rw [hbody, Except.ok.inj hok]
    · rw [List.getElem?_append_right (by simpa using hlt)] at hanswer
      have hlast := List.mem_singleton.mp (List.mem_of_getElem? hanswer.symm)
      exact absurd hread (h.ends _ hlast.symm _ _)
  have htarget := congrArg (·[i + 1]?) h.targets
  simp only [List.getElem?_map, List.getElem?_cons_succ, hpage, Option.map_some,
    hgives.linkAfter] at htarget
  obtain ⟨r, hr, hrequest⟩ := Option.map_eq_some_iff.mp htarget
  obtain ⟨hmethod, hurl⟩ := Prod.mk.inj hrequest
  exact ⟨r, hr, followsLink hmethod hurl⟩

end ContainerInfra

/-! ## 2. Calls under way -/

namespace Cloud.Machine

open ContainerInfra

/-- The request for the page at a link is sent at once, since nothing has to be found out. -/
theorem page_link (kind : Kind) (link : Path.Part) {m : Machine}
    (hservice : (m.state.client.find? containerInfra).isSome = true) (flight : Nat)
    (items : List Json) :
    ∃ r, (m.page flight kind (some link) items).history =
        m.history ++ [.sent (.flight flight) r] ∧
      r.method = .get ∧ r.url = Path.join [link, .segment ""] := by
  show ∃ r, (m.dispatch (pageAsk kind (some link)) link (.page flight kind items)).history = _ ∧ _
  unfold dispatch
  rcases State.send_cases (pageAsk kind (some link)) link m.state with
    ⟨hnone, -⟩ | ⟨r, t, hsend, hanswers, -⟩
  · rw [show m.state.client.find? containerInfra = none from hnone] at hservice
    cases hservice
  · rw [hsend]
    exact ⟨r, rfl, hanswers.method, hanswers.url⟩

/-- In the turn in which a page is read that gives a link, the request that follows it is sent. -/
theorem act_page {kind : Kind} {page : Response} {text : String} (hgives : Gives kind page text)
    {m : Machine} (hservice : (m.state.client.find? containerInfra).isSome = true)
    (link : Option Path.Part) (request : Request) (flight : Nat) (items : List Json) :
    ∃ r, (m.act (.answered (pageAsk kind link) request (.answer page)
        (.page flight kind items))).history =
          m.history ++ [.answered (.flight flight), .sent (.flight flight) r] ∧
      r.FollowsLink text := by
  obtain ⟨more, hread⟩ := hgives.readPage
  have hreceive : m.state.receive (pageAsk kind link) request (.answer page) =
      (.ok (decoded false page.data), m.state) := by
    rw [State.receive, outcome, if_neg hgives.accepted, choices_pageAsk]
    rfl
  obtain ⟨r, hr, hmethod, hurl⟩ := page_link kind (.segment text)
    (m := m.record (.answered (.flight flight))) hservice flight (items ++ more)
  refine ⟨r, ?_, followsLink hmethod hurl⟩
  rw [act, hreceive]
  simp only [Purpose.resume, hread, proceed]
  exact hr.trans (List.append_assoc ..)

end Cloud.Machine

/-! ## 3. Listings -/

namespace Session

open Cloud (State)
open ContainerInfra

/-- Behind every page of a listing that gives a link there is a request that follows it: to the
link character for character iff that has no doubled slashes, and to the link with its runs of
slashes shortened otherwise. So it is for a listing that is read for the service, or first of all
for an operation on the cloud, and for one that is read while other calls are under way. -/
theorem link_followed_iff (s : Session) (kind : Kind) (replies : List Prepared) {base : String}
    (hbase : s.state.baseOf containerInfra = .ok base) :
    (∃ requests,
      ((s.fresh replies).perform (.service (.list kind))).2.state.sent = requests ∧
      (∀ c : Command, c.asks kind = true →
        (c.ready kind (s.fresh replies).state).fresh? kind = none →
        ∃ more, ((s.fresh replies).perform c).2.state.sent = requests ++ more) ∧
      ∀ i page text, i < requests.length →
        (s.fresh replies).state.replyTo .get i = .answer page → Gives kind page text →
        ∃ r, requests[i + 1]? = some r ∧ r.FollowsLink text) ∧
    ∀ (m : Cloud.Machine) page text link request flight items,
      (m.state.client.find? containerInfra).isSome = true → Gives kind page text →
      ∃ r, (m.act (.answered (pageAsk kind link) request (.answer page)
          (.page flight kind items))).history =
            m.history ++ [.answered (.flight flight), .sent (.flight flight) r] ∧
        r.FollowsLink text := by
  have hbase' : (s.fresh replies).state.baseOf containerInfra = .ok base :=
    (baseOf_fresh replies s _).trans hbase
  obtain ⟨requests, pages, last, hread, hframe, -⟩ := State.collect_reading kind hbase'
  have hsent : ((s.fresh replies).state.collect kind).2.sent = requests := hframe.sent
  refine ⟨⟨requests, ?_, fun c hasks hstale => ?_, ?_⟩, ?_⟩
  · show (Cloud.run (Call.andThen _ ((s.fresh replies).state.collect kind).1) _).2.sent = _
    cases ((s.fresh replies).state.collect kind).1 <;> exact hsent
  · obtain ⟨more, hmore⟩ := (perform_of_stale hasks hstale).1
    exact ⟨more, by rw [hmore, hsent]⟩
  · exact fun i page text hi hreply hgives => hread.followed hi hreply hgives
  · exact fun m page text link request flight items hservice hgives =>
      Cloud.Machine.act_page hgives hservice link request flight items

/-- A link with a query is followed to the letter. -/
theorem marked_link_followed :
    let link := "https://[::1]/v1/clusters?marker=c-1"
    let s := cloudAt "https://[::1]/v1"
    s.state.baseOf containerInfra = .ok "https://[::1]/v1" ∧
    ∃ page, (s.fresh (linkedPages link)).state.replyTo .get 0 = .answer page ∧
      Gives .cluster page link ∧ ¬ Path.Doubled link ∧
      ∃ r, ((s.fresh (linkedPages link)).perform (.service (.list .cluster))).2.state.sent[1]? =
        some r ∧ r.url = link := by
  intro link s
  refine ⟨rfl, _, rfl, ⟨by decide, rfl, _, _, rfl⟩, ?_⟩
  obtain ⟨requests, hsent, -, hfollowed⟩ :=
    (link_followed_iff s .cluster (linkedPages link) rfl).1
  have hlength : 0 < requests.length := by
    rw [← hsent]
    decide +kernel
  obtain ⟨r, hr, hfollows⟩ := hfollowed 0 _ link hlength rfl ⟨by decide, rfl, _, _, rfl⟩
  have hletter : r.url = link := hfollows.url.trans (by decide +kernel)
  exact ⟨hfollows.letter.mp hletter, r, hsent ▸ hr, hletter⟩

/-- Slashes in the marker of a link go missing, and another page is asked for. -/
theorem marker_rewritten :
    let link := "https://[::1]/v1/clusters?marker=a//b"
    let s := cloudAt "https://[::1]/v1"
    (∃ page, (s.fresh (linkedPages link)).state.replyTo .get 0 = .answer page ∧
      Gives .cluster page link) ∧
    ((s.fresh (linkedPages link)).perform (.service (.list .cluster))).2.state.sent.map
        Request.url = ["https://[::1]/v1/clusters", "https://[::1]/v1/clusters?marker=a/b"] ∧
    "https://[::1]/v1/clusters?marker=a/b" ≠ link :=
  ⟨⟨_, rfl, by decide, rfl, _, _, rfl⟩, by decide +kernel, by decide⟩

end Session

end MagnumClient
