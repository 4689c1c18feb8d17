/-
MagnumClient.Proofs.Change — what deleting and updating send, and to whom.

Deleting and updating go the same way: a resource is looked up by a text, and if
exactly one is found, a request is sent to the place that its identifier names.
`Change` is either of them, with what differs as functions of it.

`Change.run_eq` splits a change into the look-up and what follows. The look-up
sends nothing but GET requests; what follows sends at most one request.
`Change.Settled` lists the ways in which a change can turn out, with the requests
of each. Both main statements are read off `Change.settled`:

* `change_outcome` — what a change comes to, and what it sends, for every way in
  which the look-up can turn out. What an updated resource says is told key by key
  (`Change.Concluded`).
* `changes_named_iff` — a change is made to nothing but a resource of the list
  that the text names, except that the empty text changes the only resource of a
  list, whatever that is called.

Both are about states in which the container service has an endpoint. The cloud of
a session is never in another (`exists_base_play`, in `Proofs.Equipment`).
-/
import MagnumClient.Proofs.Listing
import MagnumClient.Proofs.Lookups
import MagnumClient.Proofs.Naming
import MagnumClient.Cloud.Facade

namespace MagnumClient

/-! ## 1. Identifiers -/

namespace Update

/-- A resource has an identifier: a text that is not empty, as its `uuid`, or as
its `id` if the `uuid` is null or missing. -/
def Addressed (e : Json) (id : String) : Prop :=
  id ≠ "" ∧ (e.field? "uuid" = some (.str id) ∨
    (e.field? "uuid" = none ∨ e.field? "uuid" = some .null) ∧ e.field? "id" = some (.str id))

theorem address?_eq_some_iff {e : Json} {id : String} : address? e = some id ↔ Addressed e id := by
  have key : address? e = some id ↔
      id ≠ "" ∧ (present? "uuid" e).or (e.field? "id") = some (.str id) := by
    unfold address?
    generalize (present? "uuid" e).or (e.field? "id") = v
    rcases v with _ | (_ | _ | _ | s | _ | _)
    case some.str =>
      by_cases hs : s = ""
      · subst hs
        simp
      · simp only [String.isEmpty_iff, hs, if_false, Option.some.injEq, Json.str.injEq]
        constructor
        · rintro rfl
          exact ⟨hs, rfl⟩
        · exact fun h => h.2
    all_goals simp
  refine key.trans (and_congr_right fun _ => ?_)
  unfold present?
  rcases hu : e.field? "uuid" with _ | (_ | _ | _ | _ | _ | _) <;>
    simp [Option.filter, Json.isNull]

/-- Only records have an identifier. -/
theorem Addressed.isRecord {e : Json} {id : String} (h : Addressed e id) : e.isRecord = true := by
  cases e with
  | obj fields => rfl
  | _ => rcases h.2 with h | ⟨-, h⟩ <;> cases h

theorem isTruthy_of_isRecord {e : Json} (h : e.isRecord = true) : e.isTruthy = true := by
  cases e with
  | obj fields => rfl
  | _ => cases h

/-- A resource has one identifier at most. -/
theorem Addressed.unique {e : Json} {id id' : String} (h : Addressed e id) (h' : Addressed e id') :
    id = id' :=
  Option.some.inj ((address?_eq_some_iff.mpr h).symm.trans (address?_eq_some_iff.mpr h'))

theorem address_of_addressed {e : Json} {id : String} (h : Addressed e id) :
    address e = .ok id := by
  unfold address
  rw [address?_eq_some_iff.mpr h]

theorem address_of_not_addressed {e : Json} (h : ∀ id, ¬ Addressed e id) :
    address e = .error noAddress := by
  unfold address
  cases ha : address? e with
  | none => rfl
  | some id => exact absurd (address?_eq_some_iff.mp ha) (h id)

end Update

namespace Cloud

/-! ## 2. Changes -/

/-- A change to the one resource that a text names. -/
inductive Change where
  | delete
  | update (fields : Fields)

namespace Change

/-- The operation that makes a change. -/
def operation (kind : Kind) (text : String) : Change → Operation
  | delete => .delete kind (.name text)
  | update fields => .update kind (.name text) fields

/-- The state in which the resource is looked up: updating forgets the cached
listing before it looks. -/
def ready (kind : Kind) (s : State) : Change → State
  | delete => s
  | update _ => s.modifyMemo kind .invalidate

/-- The listing in which the resource is looked up, and the state after that. -/
def listing (kind : Kind) (s : State) (c : Change) : Except Failure (List Json) × State :=
  (c.ready kind s).listing kind

/-- What the change comes to if there is no such resource. -/
def absent (kind : Kind) (text : String) : Change → Outcome
  | delete => .ok (some (.bool false))
  | update _ => .error (kind.notFound text)

/-- The request for the change, as it is asked for. -/
def ask (kind : Kind) (id : String) : Change → Ask
  | delete => ContainerInfra.ask .delete (kind.placeOf id) kind.deleteOperation none
  | update fields =>
    ContainerInfra.ask .patch (kind.placeOf id) kind.updateOperation
      (some (Update.patchBody fields))

/-- The method of the request. -/
def method : Change → Method
  | delete => .delete
  | update _ => .patch

/-- The body of the request. -/
def body : Change → Option Json
  | delete => none
  | update fields => some (Update.patchBody fields)

/-- What the change of a resource comes to, given the answer. -/
def conclude (e : Json) : Change → Option Json → Option Json
  | delete, _ => some (.bool true)
  | update fields, answer => some (.obj (Update.applied e fields answer))

/-- The request for the change, as it is sent. -/
theorem of_answers {kind : Kind} {id base : String} {c : Change} {r : Request}
    (h : State.Answers (c.ask kind id) (.segment base) r) :
    r.method = c.method ∧ r.url = Path.join [.segment base, .segment (kind.placeOf id)] ∧
      r.body = c.body := by
  rw [h.method, h.url, h.body]
  cases c <;> exact ⟨rfl, rfl, rfl⟩

/-- What follows the look-up. -/
def after (kind : Kind) (text : String) : Change → Except Failure Json → Call
  | delete => Call.andThen fun e =>
    if e.isTruthy then
      ContainerInfra.delete kind e <| Call.andThen fun _ => .forget kind (.value (.bool true))
    else .note (kind.absentNote text) (.value (.bool false))
  | update fields => Call.andThen fun e =>
    if e.isTruthy then ContainerInfra.update kind e fields else .fail (kind.notFound text)

section

variable (kind : Kind) (text : String) (s : State) (c : Change)

/-- A change is a look-up and what follows it. -/
theorem run_eq (place : Json) :
    run ((c.operation kind text).call place) s =
      run (c.after kind text (lookUp kind text .all (c.listing kind s).1))
        (c.listing kind s).2 := by
  cases c <;> rfl

/-- The look-up sends nothing but GET requests, and to the endpoint of before. -/
theorem listing_frame :
    ∃ gets, (c.listing kind s).2.sent = s.sent ++ gets ∧ (∀ r ∈ gets, r.method = .get) ∧
      (c.listing kind s).2.client.face = s.client.face := by
  cases c with
  | delete => exact State.listing_frame kind s
  | update fields =>
    simpa [listing, ready] using State.listing_frame kind (s.modifyMemo kind .invalidate)

/-- A look-up that fails is the end of it. -/
theorem run_after_error (f : Failure) : run (c.after kind text (.error f)) s = (.error f, s) := by
  cases c <;> rfl

/-- Nothing is sent for a resource that is not there. -/
theorem run_after_absent {e : Json} (he : e.isTruthy = false) :
    (run (c.after kind text (.ok e)) s).1 = c.absent kind text ∧
      (run (c.after kind text (.ok e)) s).2.sent = s.sent := by
  cases c with
  | delete =>
    simp only [after, Call.andThen, he, Bool.false_eq_true, if_false, run]
    exact ⟨rfl, rfl⟩
  | update fields =>
    simp only [after, Call.andThen, he, Bool.false_eq_true, if_false]
    exact ⟨rfl, rfl⟩

/-- Nothing is sent for a resource without an identifier. -/
theorem run_after_unaddressed {e : Json} (he : e.isTruthy = true)
    (h : ∀ id, ¬ Update.Addressed e id) :
    run (c.after kind text (.ok e)) s = (.error Update.noAddress, s) := by
  have ha := Update.address_of_not_addressed h
  cases c with
  | delete => simp [after, Call.andThen, he, ContainerInfra.delete, ha, run, Call.fail]
  | update fields => simp [after, Call.andThen, he, ContainerInfra.update, ha, run, Call.fail]

end

/-- What follows the request for a change of a resource. -/
def finish (kind : Kind) (e : Json) : Change → Outcome → Call
  | delete, o => Call.andThen (fun _ => .forget kind (.value (.bool true))) (o.map fun _ => ())
  | update fields, o => .done (o.map ((update fields).conclude e))

/-- Nothing is sent after the request. -/
theorem run_finish (kind : Kind) (e : Json) (c : Change) (o : Outcome) (s : State) :
    (run (c.finish kind e o) s).1 = o.map (c.conclude e) ∧
      (run (c.finish kind e o) s).2.sent = s.sent := by
  cases c with
  | delete =>
    cases o with
    | error f => exact ⟨rfl, rfl⟩
    | ok answer => exact ⟨rfl, State.sent_modifyMemo ..⟩
  | update fields => exact ⟨rfl, rfl⟩

theorem after_of_addressed (kind : Kind) (text : String) (c : Change) {e : Json} {id : String}
    (h : Update.Addressed e id) :
    c.after kind text (.ok e) = .exchange (c.ask kind id) (c.finish kind e) := by
  have he := Update.isTruthy_of_isRecord h.isRecord
  have ha := Update.address_of_addressed h
  cases c with
  | delete => simp only [after, Call.andThen, he, if_true, ContainerInfra.delete, ha]; rfl
  | update fields => simp only [after, Call.andThen, he, if_true, ContainerInfra.update, ha]; rfl

/-- For a resource with an identifier one request is sent, to the place that the
identifier names, and the change comes to what the reply to it comes to. -/
theorem run_after_addressed (kind : Kind) (text : String) (c : Change) {s : State} {base : String}
    (hbase : s.baseOf containerInfra = .ok base) {e : Json} {id : String}
    (h : Update.Addressed e id) :
    ∃ request, State.Answers (c.ask kind id) (.segment base) request ∧
      (run (c.after kind text (.ok e)) s).1 =
        ((outcome (c.ask kind id) request (s.nextReply c.method)).mapError Failure.toCloud).map
          (c.conclude e) ∧
      (run (c.after kind text (.ok e)) s).2.sent = s.sent ++ [request] := by
  have hbase' : s.baseOf (c.ask kind id).sender.service = .ok base := by cases c <;> exact hbase
  have hmethod : (c.ask kind id).method = c.method := by cases c <;> rfl
  obtain ⟨request, hans, hout, hf⟩ := State.exchange_sent (by cases c <;> rfl) hbase'
  obtain ⟨hfirst, hsent⟩ :=
    run_finish kind e c (s.exchange (c.ask kind id)).1 (s.exchange (c.ask kind id)).2
  rw [after_of_addressed kind text c h, run]
  refine ⟨request, hans, ?_, hsent.trans hf.sent⟩
  rw [hfirst, hout, hmethod]

/-! ## 3. What a change comes to -/

/-- What a change comes to and which requests it adds to those of the look-up,
by what was listed and what is found of it. -/
inductive Settled (kind : Kind) (text : String) (c : Change) (base : String) (reply : Reply) :
    Except Failure (List Json) → Outcome → List Request → Prop where
  /-- There is no listing. -/
  | unlisted (f : Failure) : Settled kind text c base reply (.error f) (.error f) []
  /-- Nothing is found. -/
  | absent {records : List Json} : kind.resolver.select records (some text) .all = .ok [] →
      Settled kind text c base reply (.ok records) (c.absent kind text) []
  /-- Several resources are found. -/
  | several {records : List Json} {found : List Selection.Placed} :
      kind.resolver.select records (some text) .all = .ok found → 2 ≤ found.length →
      Settled kind text c base reply (.ok records) (.error (kind.resolver.ambiguous text)) []
  /-- One resource is found, and it has no identifier. -/
  | unaddressed {records : List Json} {e : Json} {i : Nat} :
      kind.resolver.select records (some text) .all = .ok [(e, i)] →
      (∀ id, ¬ Update.Addressed e id) →
      Settled kind text c base reply (.ok records) (.error Update.noAddress) []
  /-- One resource is found, and a request is sent to its place. -/
  | changed {records : List Json} {e : Json} {i : Nat} {id : String} {request : Request} :
      kind.resolver.select records (some text) .all = .ok [(e, i)] → Update.Addressed e id →
      State.Answers (c.ask kind id) (.segment base) request →
      Settled kind text c base reply (.ok records)
        (((outcome (c.ask kind id) request reply).mapError Failure.toCloud).map (c.conclude e))
        [request]
  /-- Something in the list is no record: a null, which cannot be searched, or
  what is found counts as nothing. -/
  | misfit {records : List Json} {e : Json} (o : Outcome) : e ∈ records → e.isRecord = false →
      Settled kind text c base reply (.ok records) o []

/-- What a look-up comes to, by what is found. -/
theorem lookUp_ok {kind : Kind} {text : String} {records : List Json}
    {found : List Selection.Placed} :
    kind.resolver.select records (some text) .all = .ok found →
      lookUp kind text .all (.ok records) =
        match found with
        | [] => .ok .null
        | [p] => .ok p.1
        | _ => .error (kind.resolver.ambiguous text) := by
  intro h
  simp only [lookUp, Selection.Resolver.resolve, h]
  rcases found with _ | ⟨p, _ | ⟨q, rest⟩⟩ <;> rfl

theorem lookUp_error {kind : Kind} {text : String} {records : List Json} {f : Failure}
    (h : kind.resolver.select records (some text) .all = .error f) :
    lookUp kind text .all (.ok records) = .error f := by
  simp only [lookUp, Selection.Resolver.resolve, h]

/-- What follows a look-up settles the change. -/
theorem settled_after (kind : Kind) (text : String) (c : Change) {s : State} {base : String}
    (hbase : s.baseOf containerInfra = .ok base) (listed : Except Failure (List Json)) :
    ∃ added,
      (run (c.after kind text (lookUp kind text .all listed)) s).2.sent = s.sent ++ added ∧
      c.Settled kind text base (s.nextReply c.method) listed
        (run (c.after kind text (lookUp kind text .all listed)) s).1 added := by
  cases listed with
  | error f =>
    refine ⟨[], ?_, ?_⟩
    · rw [show lookUp kind text .all (.error f) = .error f from rfl, run_after_error,
        List.append_nil]
    · rw [show lookUp kind text .all (.error f) = .error f from rfl, run_after_error]
      exact .unlisted f
  | ok records =>
    rcases hsel : kind.resolver.select records (some text) .all with
      f | (_ | ⟨⟨e, i⟩, _ | ⟨q, rest⟩⟩)
    · obtain ⟨e, he, hnull⟩ := Selection.Resolver.exists_null_of_select_error hsel
      refine ⟨[], ?_, .misfit _ he ?_⟩
      · rw [lookUp_error hsel, run_after_error, List.append_nil]
      · cases e <;> first | rfl | cases hnull
    · rw [lookUp_ok hsel]
      obtain ⟨ho, hsent⟩ := run_after_absent kind text s c (e := .null) rfl
      refine ⟨[], by rw [hsent, List.append_nil], ?_⟩
      rw [ho]
      exact .absent hsel
    · rw [lookUp_ok hsel]
      by_cases hid : ∃ id, Update.Addressed e id
      · obtain ⟨id, hid⟩ := hid
        obtain ⟨request, hans, ho, hsent⟩ := run_after_addressed kind text c hbase hid
        refine ⟨[request], hsent, ?_⟩
        rw [ho]
        exact .changed hsel hid hans
      · have hno : ∀ id, ¬ Update.Addressed e id := fun id h => hid ⟨id, h⟩
        cases he : e.isTruthy with
        | true =>
          refine ⟨[], ?_, ?_⟩ <;> rw [run_after_unaddressed kind text s c he hno]
          · rw [List.append_nil]
          · exact .unaddressed hsel hno
        | false =>
          refine ⟨[], ?_, .misfit (e := e) _ ?_ ?_⟩
          · rw [(run_after_absent kind text s c he).2, List.append_nil]
          · exact Selection.Resolver.mem_of_mem_select hsel (List.mem_singleton.mpr rfl)
          · cases e <;> first | rfl | cases he
    · refine ⟨[], ?_, ?_⟩ <;> rw [lookUp_ok hsel, run_after_error]
      · rw [List.append_nil]
      · exact .several hsel (by simp)

section

variable {kind : Kind} {text base : String} {c : Change} {reply : Reply} {o : Outcome}
  {added : List Request}

/-- What is sent is for a resource of the listing, at the place of its identifier.
A text that is not empty names it; for the empty one it is the whole listing. -/
theorem Settled.sent {listed : Except Failure (List Json)} {r : Request}
    (h : c.Settled kind text base reply listed o added) (hr : r ∈ added) :
    ∃ records e id, listed = .ok records ∧ e ∈ records ∧ Update.Addressed e id ∧
      r.url = Path.join [.segment base, .segment (kind.placeOf id)] ∧
      (text = "" → records = [e]) ∧ (text ≠ "" → kind.resolver.Names text e) := by
  cases h with
  | @changed records e i id request hsel hid hans =>
    obtain rfl := List.mem_singleton.mp hr
    have hfound : (e, i) ∈ [(e, i)] := List.mem_singleton.mpr rfl
    obtain ⟨-, hurl, -⟩ := of_answers hans
    refine ⟨records, e, id, rfl, Selection.Resolver.mem_of_mem_select hsel hfound, hid, hurl, ?_,
      fun ht => Selection.Resolver.names_of_mem_select ht hsel hfound⟩
    rintro rfl
    rw [Selection.Resolver.select_empty] at hsel
    rw [← List.zipIdx_map_fst 0 records, Except.ok.inj hsel]
    rfl
  | _ => cases hr

/-- For the empty text the only resource of a listing is changed. -/
theorem Settled.sends_of_empty {e : Json} {id : String}
    (h : c.Settled kind "" base reply (.ok [e]) o added) (hid : Update.Addressed e id) :
    ∃ r ∈ added, r.method = c.method := by
  have hfound : kind.resolver.select [e] (some "") .all = .ok [(e, 0)] := rfl
  cases h with
  | absent hsel =>
    rw [hfound] at hsel
    cases hsel
  | several hsel hlen =>
    rw [hfound] at hsel
    obtain rfl := Except.ok.inj hsel
    exact absurd hlen (by simp)
  | unaddressed hsel hno =>
    rw [hfound] at hsel
    cases hsel
    exact absurd hid (hno id)
  | changed hsel hid' hans => exact ⟨_, List.mem_singleton.mpr rfl, (of_answers hans).1⟩
  | misfit o hmem hno =>
    rw [List.mem_singleton.mp hmem, hid.isRecord] at hno
    cases hno

end

/-- A change is settled after a look-up, which sends nothing but GET requests. -/
theorem settled (place : Json) (kind : Kind) (text : String) (c : Change) {s : State}
    {base : String} (hbase : s.baseOf containerInfra = .ok base) :
    ∃ gets added,
      (run ((c.operation kind text).call place) s).2.sent = s.sent ++ gets ++ added ∧
      (c.listing kind s).2.sent = s.sent ++ gets ∧ (∀ r ∈ gets, r.method = .get) ∧
      c.Settled kind text base ((c.listing kind s).2.nextReply c.method) (c.listing kind s).1
        (run ((c.operation kind text).call place) s).1 added := by
  obtain ⟨gets, hsent, hgets, hface⟩ := c.listing_frame kind s
  have hbase' : (c.listing kind s).2.baseOf containerInfra = .ok base :=
    (State.baseOf_congr hface containerInfra).trans hbase
  obtain ⟨added, hadded, hset⟩ := settled_after kind text c hbase' (c.listing kind s).1
  rw [run_eq kind text s c place]
  exact ⟨gets, added, by rw [hadded, hsent], hsent, hgets, hset⟩

end Change

/-! ## 4. Main statements -/

open Update (Addressed)

/-- A cloud that lists some clusters and then confirms one request. -/
def serving (records : List Json) : State :=
  { State.start (.start ⟨"https://magnum.test/v1", "token", "latest", 5000⟩) none 0 with
    replies := [⟨none, .answer ⟨200, "", some (.obj [("clusters", .arr records)]), []⟩⟩,
      ⟨none, .answer ⟨200, "", some (.obj []), []⟩⟩] }

/-- A cluster. -/
def web : Json := .obj [("uuid", .str "c-1"), ("name", .str "web")]

namespace Change

/-- What a change comes to where there is nothing of a name to be changed. Deleting says so,
updating fails. -/
def Unmet (kind : Kind) (text : String) (o : Outcome) : Change → Prop
  | delete => o = .ok (some (.bool false))
  | update _ =>
    let title := match kind with
      | .cluster => "COE cluster "
      | .template => "Cluster template "
    o = .error (.cloud .notFound (title ++ text ++ " not found.") .nothing .nothing)

/-- The request that makes a change. -/
def Made (url : String) (r : Request) : Change → Prop
  | delete => r.method = .delete ∧ r.url = url ∧ r.body = none
  | update fields => r.method = .patch ∧ r.url = url ∧ r.body = some (Update.patchBody fields)

/-- What a confirmed change of a resource comes to. Deleting says so; an updated resource says for
each key what the answer says, else what the update says, else what the resource said before. -/
def Concluded (e : Json) (answer : Option Json) (o : Outcome) : Change → Prop
  | delete => o = .ok (some (.bool true))
  | update fields => ∃ merged, o = .ok (some (.obj merged)) ∧ Fields.Distinct merged ∧
      ∀ key, Fields.get? key merged =
        (Fields.last? key ((answer.map Json.ownFields).getD [])).or
          ((Fields.last? key fields).or (Fields.last? key e.ownFields))

theorem unmet_absent (kind : Kind) (text : String) (c : Change) :
    c.Unmet kind text (c.absent kind text) := by
  cases c with
  | delete => rfl
  | update fields => cases kind <;> rfl

theorem made_of_answers {kind : Kind} {id base : String} {c : Change} {r : Request}
    (h : State.Answers (c.ask kind id) (.segment base) r) :
    c.Made (Path.join [.segment base, .segment (kind.placeOf id)]) r := by
  obtain ⟨hmethod, hurl, hbody⟩ := of_answers h
  cases c <;> exact ⟨hmethod, hurl, hbody⟩

theorem concluded_conclude (e : Json) (answer : Option Json) (c : Change) :
    c.Concluded e answer (.ok (c.conclude e answer)) := by
  cases c with
  | delete => rfl
  | update fields =>
    have hempty : Fields.Distinct [] := List.nodup_nil
    have hown : Fields.ofPairs e.ownFields = Fields.overlay [] e.ownFields := rfl
    refine ⟨_, rfl, ?_, fun key => ?_⟩
    · exact Fields.overlay_distinct
        (Fields.overlay_distinct (hown ▸ Fields.overlay_distinct hempty _) _) _
    · rw [Update.applied, hown, Fields.get?_overlay_eq_last?, Fields.get?_overlay_eq_last?,
        Fields.get?_overlay_eq_last?, Fields.get?_nil, Option.or_none]

end Change

/-- A change sends at most one request beside those of the look-up, and only if
exactly one resource is found and has an identifier: then to the place that the
identifier names. What the change comes to is told for each way in which the
look-up can turn out, and then for each way in which the request can. -/
theorem change_outcome (place : Json) (kind : Kind) (text : String) (c : Change) {s : State}
    {base : String} (hbase : s.baseOf containerInfra = .ok base)
    (hrecords : ∀ records, (c.listing kind s).1 = .ok records →
      ∀ e ∈ records, e.isRecord = true) :
    ∃ o t gets added, run ((c.operation kind text).call place) s = (o, t) ∧
      t.sent = s.sent ++ gets ++ added ∧
      (c.listing kind s).2.sent = s.sent ++ gets ∧ (∀ r ∈ gets, r.method = .get) ∧
      (∀ f, (c.listing kind s).1 = .error f → o = .error f ∧ added = []) ∧
      ∀ records, (c.listing kind s).1 = .ok records →
        ∃ found, kind.resolver.select records (some text) .all = .ok found ∧
          (found = [] → c.Unmet kind text o ∧ added = []) ∧
          (2 ≤ found.length → added = [] ∧
            o = .error (.cloud .multipleMatches
              ("Multiple matches found for " ++ kind.resolver.resource ++ " " ++ text)
              .nothing .nothing)) ∧
          ∀ e i, found = [(e, i)] →
            (∀ id, Addressed e id → ∃ request, added = [request] ∧
              c.Made (Path.join [.segment base, .segment (kind.placeOf id)]) request ∧
              let replied := outcome (c.ask kind id) request
                ((c.listing kind s).2.nextReply request.method)
              (∀ f, replied = .error f → o = .error f.toCloud) ∧
              ∀ answer, replied = .ok answer → c.Concluded e answer o) ∧
            ((∀ id, ¬ Addressed e id) → added = [] ∧
              o = .error (.cloud .operation "Resource has no uuid to address it by"
                .nothing .nothing)) := by
  obtain ⟨gets, added, hsent, hfirst, hgets, hset⟩ := Change.settled place kind text c hbase
  refine ⟨_, _, gets, added, rfl, hsent, hfirst, hgets, ?_⟩
  generalize (run ((c.operation kind text).call place) s).1 = o at hset ⊢
  constructor
  · intro f hf
    rw [hf] at hset
    cases hset
    exact ⟨rfl, rfl⟩
  · intro records hrec
    have hrecord := hrecords records hrec
    rw [hrec] at hset
    cases hset with
    | absent hsel =>
      refine ⟨[], hsel, fun _ => ⟨c.unmet_absent kind text, rfl⟩, ?_, ?_⟩
      · intro hlen
        cases hlen
      · rintro e i ⟨⟩
    | several hsel hlen =>
      refine ⟨_, hsel, ?_, fun _ => ⟨rfl, rfl⟩, ?_⟩
      · rintro rfl
        cases hlen
      · rintro e i rfl
        exact absurd hlen (by simp)
    | unaddressed hsel hno =>
      refine ⟨_, hsel, ?_, ?_, ?_⟩
      · rintro ⟨⟩
      · intro hlen
        exact absurd hlen (by simp)
      · rintro e i ⟨⟩
        exact ⟨fun id hid => absurd hid (hno id), fun _ => ⟨rfl, rfl⟩⟩
    | @changed _ _ _ _ request hsel hid hans =>
      refine ⟨_, hsel, ?_, ?_, ?_⟩
      · rintro ⟨⟩
      · intro hlen
        exact absurd hlen (by simp)
      · rintro e i ⟨⟩
        refine ⟨?_, fun hno => absurd hid (hno _)⟩
        intro id hid'
        obtain rfl := hid.unique hid'
        have hmethod : request.method = c.method := (Change.of_answers hans).1
        refine ⟨request, rfl, Change.made_of_answers hans, ?_, ?_⟩
        · intro f hf
          rw [hmethod] at hf
          rw [hf]
          rfl
        · intro answer hanswer
          rw [hmethod] at hanswer
          rw [hanswer]
          exact c.concluded_conclude _ answer
    | misfit o he hno =>
      rw [hrecord _ he] at hno
      cases hno

/-- A cloud that lists a cluster, and answers an update of it with a field of its own. -/
def scaling : State :=
  { serving [web] with
    replies := [⟨none, .answer ⟨200, "", some (.obj [("clusters", .arr [web])]), []⟩⟩,
      ⟨none, .answer ⟨202, "", some (.obj [("status", .str "UPDATING")]), []⟩⟩] }

/-- A cluster that is named is updated at its identifier. What is returned has the name that the
cluster had, the number of nodes that was asked for, and the status of the answer. -/
theorem update_outcome_web :
    let change : Change := .update [("node_count", .num 3), ("status", .null)]
    scaling.baseOf containerInfra = .ok "https://magnum.test/v1" ∧
    (∀ records, (change.listing .cluster scaling).1 = .ok records →
      ∀ e ∈ records, e.isRecord = true) ∧
    ∃ t gets request merged,
      run ((change.operation .cluster "web").call .null) scaling =
        (.ok (some (.obj merged)), t) ∧
      t.sent = gets ++ [request] ∧ (∀ r ∈ gets, r.method = .get) ∧ request.method = .patch ∧
      request.url = "https://magnum.test/v1/clusters/c-1" ∧
      Fields.get? "name" merged = some (.str "web") ∧
      Fields.get? "node_count" merged = some (.num 3) ∧
      Fields.get? "status" merged = some (.str "UPDATING") := by
  intro change
  have hlisted : (change.listing .cluster scaling).1 = .ok [web] := rfl
  have hrecords : ∀ records, (change.listing .cluster scaling).1 = .ok records →
      ∀ e ∈ records, e.isRecord = true := by
    rintro records h e he
    rw [hlisted] at h
    cases h
    rw [List.mem_singleton.mp he]
    rfl
  refine ⟨rfl, hrecords, ?_⟩
  obtain ⟨o, t, gets, added, hrun, hsent, -, hgets, -, hok⟩ :=
    change_outcome .null .cluster "web" change (s := scaling) rfl hrecords
  obtain ⟨found, hsel, -, -, hone⟩ := hok [web] hlisted
  have hfound : found = [(web, 0)] := Except.ok.inj (hsel.symm.trans rfl)
  obtain ⟨request, rfl, ⟨hmethod, hurl, -⟩, -, hanswered⟩ :=
    (hone web 0 hfound).1 "c-1" ⟨by decide, .inl rfl⟩
  rw [hmethod] at hanswered
  obtain ⟨merged, rfl, -, hmerged⟩ := hanswered _ rfl
  exact ⟨t, gets, request, merged, hrun, hsent, hgets, hmethod, hurl, hmerged "name",
    hmerged "node_count", hmerged "status"⟩

/-- What a change sends is addressed to a resource of the listing that the text
names, exactly unless the text is empty and the listing has one resource, which
has an identifier and is not called by the empty text: then that resource is
changed. -/
theorem changes_named_iff (place : Json) (kind : Kind) (text : String) (c : Change) {s : State}
    {base : String} (hbase : s.baseOf containerInfra = .ok base) :
    ∃ added, (run ((c.operation kind text).call place) s).2.sent = s.sent ++ added ∧
      ((∀ r ∈ added, r.method = .delete ∨ r.method = .patch →
        ∃ records e id, (c.listing kind s).1 = .ok records ∧ e ∈ records ∧ Addressed e id ∧
          r.url = Path.join [.segment base, .segment (kind.placeOf id)] ∧
          kind.resolver.Names text e) ↔
      ¬ (text = "" ∧ ∃ e id, (c.listing kind s).1 = .ok [e] ∧ Addressed e id ∧
        ¬ kind.resolver.Names "" e)) := by
  obtain ⟨gets, added, hsent, -, hgets, hset⟩ := Change.settled place kind text c hbase
  refine ⟨gets ++ added, by rw [hsent, List.append_assoc], ?_⟩
  constructor
  · rintro hall ⟨rfl, e, id, hlisted, hid, hnot⟩
    rw [hlisted] at hset
    obtain ⟨r, hr, hmethod⟩ := hset.sends_of_empty hid
    -- the request for the only resource would have to be for one that is named
    obtain ⟨records, e', id', hrec, hmem, -, -, hnames⟩ :=
      hall r (List.mem_append.mpr (.inr hr)) (by rw [hmethod]; cases c <;> simp [Change.method])
    obtain rfl := Except.ok.inj (hlisted.symm.trans hrec)
    rw [List.mem_singleton.mp hmem] at hnames
    exact hnot hnames
  · intro hspared r hr hmethod
    rcases List.mem_append.mp hr with hr | hr
    · rw [hgets r hr] at hmethod
      rcases hmethod with h | h <;> cases h
    · obtain ⟨records, e, id, hrec, hmem, hid, hurl, hempty, hnames⟩ := hset.sent hr
      refine ⟨records, e, id, hrec, hmem, hid, hurl, ?_⟩
      by_cases ht : text = ""
      · rw [hempty ht] at hrec
        subst ht
        exact Classical.byContradiction fun hnot => hspared ⟨rfl, e, id, hrec, hid, hnot⟩
      · exact hnames ht

/-- A text that is not empty changes nothing but what it names. -/
theorem changes_named_web :
    (serving [web]).baseOf containerInfra = .ok "https://magnum.test/v1" ∧
    ∃ added, (run (Cloud.delete .cluster (.name "web")) (serving [web])).2.sent = added ∧
      ∀ r ∈ added, r.method = .delete ∨ r.method = .patch →
        ∃ records e id, (Change.delete.listing .cluster (serving [web])).1 = .ok records ∧
          e ∈ records ∧ Addressed e id ∧
          r.url = Path.join [.segment "https://magnum.test/v1",
            .segment (Kind.cluster.placeOf id)] ∧
          Kind.cluster.resolver.Names "web" e := by
  have hbase : (serving [web]).baseOf containerInfra = .ok "https://magnum.test/v1" := rfl
  refine ⟨hbase, ?_⟩
  obtain ⟨added, hsent, hiff⟩ := changes_named_iff .null .cluster "web" .delete hbase
  exact ⟨added, hsent, hiff.mpr fun h => absurd h.1 (by decide)⟩

/-- The empty text does not name the cluster, and deletes it. -/
theorem delete_unnamed :
    (run (Cloud.delete .cluster (.name "")) (serving [web])).1 = .ok (some (.bool true)) ∧
    (run (Cloud.delete .cluster (.name "")) (serving [web])).2.sent.map
        (fun r => (r.method, r.url)) =
      [(.get, "https://magnum.test/v1/clusters"),
        (.delete, "https://magnum.test/v1/clusters/c-1")] ∧
    Addressed web "c-1" ∧ ¬ Kind.cluster.resolver.Names "" web := by
  refine ⟨rfl, rfl, ⟨by decide, .inl rfl⟩, ?_⟩
  rw [Selection.Resolver.names_empty_iff]
  rintro ⟨key, hkey, hfield⟩
  rcases List.mem_cons.mp hkey with rfl | hkey
  · exact absurd (Json.str.inj (Option.some.inj hfield)) (by decide)
  · obtain rfl := List.mem_singleton.mp hkey
    exact absurd (Json.str.inj (Option.some.inj hfield)) (by decide)

end Cloud

end MagnumClient
