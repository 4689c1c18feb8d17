/-
MagnumClient.Proofs.Alike — alike, but for the words of a kind.

Clusters and cluster templates are handled by the same steps, and what can be seen of them
differs in spelling: the place of the collection in URLs, and what messages and log lines
call the resources and the operations on them. This module says so one thing after the
other: of texts (`Wording`), of requests, of failures, of what a call comes to (`Alike`),
and of calls as trees (`Call.Alike`).

The answers of the service are part of it: a listing of clusters is under another key than a
listing of templates. `Reply.Counterpart` relates what a request for clusters meets to what
the same request for templates meets; only the bodies of GET requests are renamed.

Two failures that are alike are of one class and agree in all fields but their URLs and
messages, and so do their causes.
-/
import MagnumClient.Proofs.Replies

namespace MagnumClient

/-! ## 1. Texts -/

/-- Two URLs are the same, or the same place in the two collections at one base. -/
inductive UrlAlike : String → String → Prop where
  | same (url : String) : UrlAlike url url
  | collection (base : Path.Part) (rest : String) :
    UrlAlike (Path.join [base, .segment (Kind.cluster.place ++ rest)])
      (Path.join [base, .segment (Kind.template.place ++ rest)])

/-- Two texts are the same but for URLs and the words for resources and operations. -/
inductive Wording : String → String → Prop where
  | same (text : String) : Wording text text
  | resource : Wording "COE cluster" "cluster template"
  | inMessage : Wording "COE cluster" "Cluster template"
  | inLog : Wording "COE Cluster" "Cluster template"
  | listing : Wording "clusters" "clusterTemplates"
  | updating : Wording "updateCluster" "updateClusterTemplate"
  | deleting : Wording "deleteCluster" "deleteClusterTemplate"
  | url {u u' : String} (h : UrlAlike u u') : Wording u u'
  | append {a a' b b' : String} (h : Wording a a') (h' : Wording b b') : Wording (a ++ b) (a' ++ b')

/-! ## 2. Answers -/

/-- The key of the one collection in place of that of the other. -/
def swapKey (key : String) : String :=
  if key = Kind.cluster.collection then Kind.template.collection
  else if key = Kind.template.collection then Kind.cluster.collection
  else key

/-- A document with the key of a collection renamed. -/
def Json.renamed : Json → Json
  | .obj fields => .obj (fields.map fun f => (swapKey f.1, f.2))
  | v => v

/-- The body for templates of what a request for clusters is answered with. -/
def counterpart (m : Method) (body : Option Json) : Option Json :=
  match m with
  | .get => body.map Json.renamed
  | _ => body

theorem counterpart_of_ne {m : Method} (h : m ≠ .get) (body : Option Json) :
    counterpart m body = body := by
  cases m <;> first | rfl | exact absurd rfl h

theorem swapKey_swapKey (key : String) : swapKey (swapKey key) = key := by
  unfold swapKey
  by_cases hc : key = Kind.cluster.collection
  · subst hc
    decide
  · by_cases ht : key = Kind.template.collection
    · subst ht
      decide
    · simp [hc, ht]

theorem swapKey_inj {a b : String} : swapKey a = swapKey b ↔ a = b :=
  ⟨fun h => by rw [← swapKey_swapKey a, h, swapKey_swapKey], fun h => by rw [h]⟩

theorem get?_renamed (key : String) (fields : Fields) :
    Fields.get? (swapKey key) (fields.map fun f => (swapKey f.1, f.2)) =
      Fields.get? key fields := by
  induction fields with
  | nil => rfl
  | cons f rest ih => simp only [List.map_cons, Fields.get?, ih, swapKey_inj]

/-- A field of another name is found where it was. -/
theorem get?_renamed_of_eq (key : String) (h : swapKey key = key) (fields : Fields) :
    Fields.get? key (fields.map fun f => (swapKey f.1, f.2)) = Fields.get? key fields := by
  rw [← get?_renamed key fields, h]

namespace Json

theorem isTruthy_renamed (v : Json) : v.renamed.isTruthy = v.isTruthy := by
  cases v <;> rfl

theorem field?_renamed (key : String) (v : Json) :
    v.renamed.field? (swapKey key) = v.field? key := by
  cases v with
  | obj fields => exact get?_renamed key fields
  | _ => rfl

end Json

/-- A page of templates reads as the page of clusters that it is the counterpart of. -/
theorem readPage_counterpart (body : Option Json) :
    ContainerInfra.readPage .template (counterpart .get body) =
      ContainerInfra.readPage .cluster body := by
  cases body with
  | none => rfl
  | some page =>
    have hitems : page.renamed.field? Kind.template.collection =
        page.field? Kind.cluster.collection := page.field?_renamed Kind.cluster.collection
    have hnext : ContainerInfra.nextLink page.renamed = ContainerInfra.nextLink page := by
      unfold ContainerInfra.nextLink
      rw [show page.renamed.field? "next" = page.field? "next" from page.field?_renamed "next"]
    simp only [counterpart, Option.map_some, ContainerInfra.readPage, Json.isTruthy_renamed, hitems,
      hnext]

/-- What a body says about an error does not stand under the key of a collection. -/
theorem details?_counterpart (m : Method) (body : Option Json) :
    Failure.details? (counterpart m body) = Failure.details? body := by
  by_cases hm : m = .get
  · subst hm
    rcases body with _ | v
    · rfl
    · cases v with
      | obj fields =>
        have herrors := get?_renamed_of_eq "errors" (by decide) fields
        have hfault := get?_renamed_of_eq "faultstring" (by decide) fields
        have hmessage := get?_renamed_of_eq "message" (by decide) fields
        simp only [counterpart, Option.map_some, Json.renamed, Failure.details?,
          Failure.firstError?, Failure.textField?, herrors, hfault, hmessage]
      | _ => rfl
  · rw [counterpart_of_ne hm]

/-- An answer to a request for templates is that to the request for clusters, with its body
renamed as it is read. -/
structure Response.Counterpart (m : Method) (r r' : Response) : Prop where
  status : r'.status = r.status
  statusText : r'.statusText = r.statusText
  headers : r'.headers = r.headers
  data : decoded false r'.data = counterpart m (decoded false r.data)

/-- What a request for templates meets is what the request for clusters meets; answers have
their bodies renamed. -/
inductive Reply.Counterpart (m : Method) : Reply → Reply → Prop where
  | answer {r r' : Response} (h : r.Counterpart m r') : Counterpart m (.answer r) (.answer r')
  | lost (message : String) (code : Option String) :
    Counterpart m (.lost message code) (.lost message code)
  | fails (f : Failure) : Counterpart m (.fails f) (.fails f)

/-! ## 3. Failures -/

/-- The same is known of two answers, but for the place in the collections. -/
structure HttpFacts.Alike (x y : HttpFacts) : Prop where
  statusCode : y.statusCode = x.statusCode
  requestId : y.requestId = x.requestId
  details : y.details = x.details
  url : Option.Rel UrlAlike x.url y.url

/-- An answer as it was read, its body renamed or not. -/
structure Response.Alike (r r' : Response) : Prop where
  status : r'.status = r.status
  statusText : r'.statusText = r.statusText
  headers : r'.headers = r.headers
  data : ∃ m, r'.data = counterpart m r.data

/-- Requests on behalf of counterparts failed alike. -/
structure RequestFailure.Alike (x y : RequestFailure) : Prop where
  message : y.message = x.message
  code : y.code = x.code
  method : y.method = x.method
  url : Option.Rel UrlAlike x.url y.url
  response : Option.Rel Response.Alike x.response y.response
  sender : Option.Rel (fun a b : Sender => b.service = a.service ∧ Wording a.operation b.operation)
    x.sender y.sender

/-- Two failures are of one class, and the same but for their wording and their URLs. -/
inductive Failure.Alike : Failure → Failure → Prop where
  | same (f : Failure) : Alike f f
  | request {x y : RequestFailure} (h : x.Alike y) : Alike (request x) (request y)
  | cloud (kind : CloudKind) {m m' : String} (h : Wording m m') (extra : Extra) {f g : Failure}
    (hcause : Alike f g) : Alike (cloud kind m extra f) (cloud kind m' extra g)
  | http {m m' : String} (h : Wording m m') {x y : HttpFacts} (hfacts : x.Alike y) (extra : Extra)
    {f g : Failure} (hcause : Alike f g) : Alike (http m x extra f) (http m' y extra g)

/-- Two outcomes are values that are related, or failures that are alike. -/
inductive Alike {α : Type} (R : α → α → Prop) : Except Failure α → Except Failure α → Prop where
  | ok {a b : α} (h : R a b) : Alike R (.ok a) (.ok b)
  | error {f g : Failure} (h : f.Alike g) : Alike R (.error f) (.error g)

namespace RequestFailure.Alike

variable {x y : RequestFailure}

theorem facts (h : x.Alike y) : x.facts.Alike y.facts := by
  have hurl := h.url
  have hresponse := h.response
  unfold RequestFailure.facts
  revert hresponse
  generalize x.response = a, y.response = b
  rintro (hab | _)
  · obtain ⟨m, hdata⟩ := hab.data
    refine ⟨congrArg some hab.status, ?_, ?_, hurl⟩
    · simp only [hab.headers]
    · simp only [hdata, details?_counterpart]
  · exact ⟨rfl, rfl, rfl, hurl⟩

theorem target (h : x.Alike y) : Wording x.target y.target := by
  have hurl := h.url
  unfold RequestFailure.target
  rw [h.method]
  refine .append (.append (.same _) (.same _)) ?_
  revert hurl
  generalize x.url = u, y.url = u'
  rintro (hu | _)
  · exact .url hu
  · exact .same _

theorem text (h : x.Alike y) : Wording x.text y.text := by
  have htarget := h.target
  have hresponse := h.response
  unfold RequestFailure.text
  revert hresponse
  generalize x.response = a, y.response = b
  rintro (hab | _)
  · obtain ⟨m, hdata⟩ := hab.data
    simp only [hab.status, hab.statusText, hdata, details?_counterpart]
    exact .append (.same _) htarget
  · rw [h.message]
    exact .append (.same _) htarget

end RequestFailure.Alike

/-- Failures that are alike are told alike. -/
theorem Failure.Alike.toCloud {f g : Failure} (h : f.Alike g) : f.toCloud.Alike g.toCloud := by
  cases h with
  | same => exact .same _
  | request h => exact .http h.text h.facts .nothing (.request h)
  | cloud kind h extra hcause => exact .cloud kind h extra hcause
  | http h hfacts extra hcause => exact .http h hfacts extra hcause

namespace Alike

variable {α β : Type} {R : α → α → Prop} {S : β → β → Prop} {o o' : Except Failure α}

theorem map {f : α → β} (h : Alike R o o') (hf : ∀ a b, R a b → S (f a) (f b)) :
    Alike S (o.map f) (o'.map f) := by
  cases h with
  | ok h => exact .ok (hf _ _ h)
  | error h => exact .error h

theorem mono {R' : α → α → Prop} (h : Alike R o o') (hR : ∀ a b, R a b → R' a b) :
    Alike R' o o' := by
  cases h with
  | ok h => exact .ok (hR _ _ h)
  | error h => exact .error h

theorem refl (o : Except Failure α) : Alike Eq o o := by
  cases o with
  | ok a => exact .ok rfl
  | error f => exact .error (.same f)

end Alike

/-! ## 4. Requests -/

/-- Two requests are the same but for the place in the collections. -/
structure Request.Alike (r r' : Request) : Prop where
  method : r'.method = r.method
  url : UrlAlike r.url r'.url
  headers : r'.headers = r.headers
  body : r'.body = r.body
  params : r'.params = r.params
  timeout : r'.timeout = r.timeout

/-- Two asks are the same but for the place in the collections and the name of the
operation. -/
structure Ask.Alike (a a' : Ask) : Prop where
  method : a'.method = a.method
  base : a'.base = a.base
  place : a'.place = a.place ∨ ∃ rest, a.place = .segment (Kind.cluster.place ++ rest) ∧
    a'.place = .segment (Kind.template.place ++ rest)
  params : a'.params = a.params
  body : a'.body = a.body
  service : a'.sender.service = a.sender.service
  operation : Wording a.sender.operation a'.sender.operation
  choices : a.choices = .usual ∧ a'.choices = .usual

namespace Ask.Alike

variable {a a' : Ask}

theorem request (h : a.Alike a') (c : Client) (base : Path.Part) (service : Service) :
    (c.request a base service).Alike (c.request a' base service) where
  method := h.method
  url := by
    unfold Client.request
    rcases h.place with hplace | ⟨rest, hplace, hplace'⟩
    · rw [hplace]
      exact .same _
    · rw [hplace, hplace']
      exact .collection base rest
  headers := by simp only [Client.request, h.choices.1, h.choices.2]
  body := by simp only [Client.request, h.body]
  params := h.params
  timeout := by simp only [Client.request, h.choices.1, h.choices.2]

/-- Requests that are alike and meet counterparts come to outcomes that are alike. -/
theorem outcome (h : a.Alike a') {r r' : Request} (hr : r.Alike r') {reply reply' : Reply}
    (hreply : reply.Counterpart a.method reply') :
    MagnumClient.Alike (fun d d' => d' = counterpart a.method d) (MagnumClient.outcome a r reply)
      (MagnumClient.outcome a' r' reply') := by
  obtain ⟨hchoices, hchoices'⟩ := h.choices
  have hsender : Option.Rel (fun x y : Sender => y.service = x.service ∧
      Wording x.operation y.operation) (some a.sender) (some a'.sender) :=
    .some ⟨h.service, h.operation⟩
  have hurl : Option.Rel UrlAlike (some r.url) (some r'.url) := .some hr.url
  cases hreply with
  | @answer x x' hx =>
    have hread : (received false x).Alike (received false x') :=
      ⟨hx.status, hx.statusText, congrArg receivedHeaders hx.headers, a.method, hx.data⟩
    simp only [MagnumClient.outcome, hchoices, hchoices', hx.status, hr.method]
    split
    · exact .error (.request ⟨rfl, rfl, rfl, hurl, .some hread, hsender⟩)
    · exact .ok hx.data
  | lost message code =>
    simp only [MagnumClient.outcome, hr.method]
    exact .error (.request ⟨rfl, rfl, rfl, hurl, .none, hsender⟩)
  | fails f =>
    cases f with
    | request x =>
      simp only [MagnumClient.outcome, hchoices, hchoices']
      exact .error (.same _)
    | _ => exact .error (.same _)

end Ask.Alike

/-! ## 5. Calls -/

/-- Two calls do the same steps, one for clusters and one for templates, and go on alike
whenever these come to what is alike. -/
inductive Call.Alike : Call → Call → Prop where
  | done {o o' : Outcome} (h : MagnumClient.Alike Eq o o') : Alike (.done o) (.done o')
  | exchange {a a' : Ask} (ha : a.Alike a') (hm : a.method ≠ .get) {next next' : Outcome → Call}
    (h : ∀ o o', MagnumClient.Alike Eq o o' → Alike (next o) (next' o')) :
    Alike (.exchange a next) (.exchange a' next')
  | listing {next next' : Except Failure (List Json) → Call}
    (h : ∀ o o', MagnumClient.Alike Eq o o' → Alike (next o) (next' o')) :
    Alike (.listing .cluster next) (.listing .template next')
  | forget {next next' : Call} (h : Alike next next') :
    Alike (.forget .cluster next) (.forget .template next')
  | note {m m' : String} (hm : Wording m m') {next next' : Call} (h : Alike next next') :
    Alike (.note m next) (.note m' next')

/-! ## 6. Operations -/

namespace Call.Alike

theorem value (v : Json) : (Call.value v).Alike (Call.value v) :=
  .done (.refl _)

theorem fail {f g : Failure} (h : f.Alike g) : (Call.fail f).Alike (Call.fail g) :=
  .done (.error h)

theorem andThen {α : Type} {next next' : α → Call} (h : ∀ a, (next a).Alike (next' a))
    {o o' : Except Failure α} (ho : MagnumClient.Alike Eq o o') :
    (Call.andThen next o).Alike (Call.andThen next' o') := by
  cases ho with
  | ok h' =>
    subst h'
    exact h _
  | error h' => exact .fail h'

end Call.Alike

/-- The words for a resource in front of a text. -/
theorem wording_absentNote (name : String) :
    Wording (Kind.cluster.absentNote name) (Kind.template.absentNote name) := by
  have hcluster : "COE Cluster " = "COE Cluster" ++ " " := by decide +kernel
  have htemplate : "Cluster template " = "Cluster template" ++ " " := by decide +kernel
  show Wording ("COE Cluster " ++ name ++ " does not exist")
    ("Cluster template " ++ name ++ " does not exist")
  rw [hcluster, htemplate]
  exact .append (.append (.append .inLog (.same _)) (.same _)) (.same _)

theorem alike_notFound (name : String) :
    (Kind.cluster.notFound name).Alike (Kind.template.notFound name) := by
  have hcluster : "COE cluster " = "COE cluster" ++ " " := by decide +kernel
  have htemplate : "Cluster template " = "Cluster template" ++ " " := by decide +kernel
  have hmessage : Wording ("COE cluster " ++ name ++ " not found.")
      ("Cluster template " ++ name ++ " not found.") := by
    rw [hcluster, htemplate]
    exact .append (.append (.append .inMessage (.same _)) (.same _)) (.same _)
  exact .cloud .notFound hmessage .nothing (.same _)

/-- What is selected does not depend on what the entities are called. -/
theorem alike_select (items : List Json) (name : Option String) (filter : Selection.Filter) :
    Alike Eq (Kind.cluster.resolver.select items name filter)
      (Kind.template.resolver.select items name filter) := by
  have hfiltered : ∀ entities,
      Alike Eq (Kind.cluster.resolver.filtered Query.evaluate filter entities)
        (Kind.template.resolver.filtered Query.evaluate filter entities) := by
    intro entities
    cases filter with
    | all => exact .refl _
    | fields wanted => exact .refl _
    | query text =>
      show Alike Eq (Kind.cluster.resolver.queried Query.evaluate text entities)
        (Kind.template.resolver.queried Query.evaluate text entities)
      unfold Selection.Resolver.queried
      cases Query.evaluate text (Query.documents (entities.map (·.1))) with
      | ok outcome => exact .refl _
      | error p =>
        exact .error (.cloud .operation
          (.append (.append (.append (.same _) .resource) (.same _)) (.same _)) .nothing (.same _))
  unfold Selection.Resolver.select Selection.Resolver.selectIn
  cases name.filter fun n => !n.isEmpty with
  | none => exact hfiltered _
  | some n =>
    have hnamed : Kind.template.resolver.named n items.zipIdx =
        Kind.cluster.resolver.named n items.zipIdx := rfl
    simp only [hnamed]
    cases Kind.cluster.resolver.named n items.zipIdx with
    | error f => exact .refl _
    | ok found =>
      cases found with
      | nil => exact .refl _
      | cons p rest => exact hfiltered _

theorem alike_resolve (items : List Json) (name : String) (filter : Selection.Filter) :
    Alike Eq (Kind.cluster.resolver.resolve items name filter)
      (Kind.template.resolver.resolve items name filter) := by
  unfold Selection.Resolver.resolve
  have h := alike_select items (some name) filter
  generalize Kind.cluster.resolver.select items (some name) filter = o,
    Kind.template.resolver.select items (some name) filter = o' at h
  cases h with
  | error h => exact .error h
  | @ok found _ h =>
    subst h
    rcases found with _ | ⟨p, _ | ⟨q, rest⟩⟩
    · exact .refl _
    · exact .refl _
    · exact .error (.cloud .multipleMatches
        (.append (.append (.append (.same _) .resource) (.same _)) (.same _)) .nothing (.same _))

namespace ContainerInfra

/-- Asks for what is behind the place of the collection. -/
theorem alike_ask (m : Method) (rest : String) {operation operation' : String}
    (h : Wording operation operation') (body : Option Json) :
    (ask m (Kind.cluster.place ++ rest) operation body).Alike
      (ask m (Kind.template.place ++ rest) operation' body) where
  method := rfl
  base := rfl
  place := .inr ⟨rest, rfl, rfl⟩
  params := rfl
  body := rfl
  service := rfl
  operation := h
  choices := ⟨rfl, rfl⟩

theorem placeOf_append (kind : Kind) (id : String) : kind.placeOf id = kind.place ++ ("/" ++ id) :=
  String.append_assoc ..

theorem alike_pageAsk (link : Option Path.Part) :
    (pageAsk .cluster link).Alike (pageAsk .template link) := by
  cases link with
  | none =>
    have h := alike_ask .get "" .listing none
    rwa [String.append_empty, String.append_empty] at h
  | some link => exact ⟨rfl, rfl, .inl rfl, rfl, rfl, rfl, .listing, rfl, rfl⟩

theorem alike_update (entity : Json) (fields : Fields) :
    (update .cluster entity fields).Alike (update .template entity fields) := by
  unfold update
  cases Update.address entity with
  | error f => exact .fail (.same f)
  | ok id =>
    simp only [placeOf_append]
    exact .exchange (alike_ask .patch _ .updating _) nofun fun o o' ho =>
      .done (ho.map fun a b hab => by rw [hab])

theorem alike_delete (entity : Json) {next next' : Except Failure Unit → Call}
    (h : ∀ o o', Alike Eq o o' → (next o).Alike (next' o')) :
    (delete .cluster entity next).Alike (delete .template entity next') := by
  unfold delete
  cases Update.address entity with
  | error f => exact h _ _ (.error (.same f))
  | ok id =>
    simp only [placeOf_append]
    exact .exchange (alike_ask .delete _ .deleting _) nofun fun o o' ho =>
      h _ _ (ho.map fun _ _ _ => rfl)

end ContainerInfra

namespace Cloud

theorem alike_lookUp (text : String) (filter : Selection.Filter)
    {o o' : Except Failure (List Json)} (h : Alike Eq o o') :
    Alike Eq (lookUp .cluster text filter o) (lookUp .template text filter o') := by
  cases h with
  | error h => exact .error h
  | @ok items _ h =>
    subst h
    simp only [lookUp]
    have hfound := alike_resolve items text filter
    generalize Kind.cluster.resolver.resolve items text filter = p,
      Kind.template.resolver.resolve items text filter = p' at hfound
    cases hfound with
    | error h => exact .error h
    | ok h =>
      subst h
      exact .refl _

theorem alike_locate (target : Target) (filter : Selection.Filter)
    {next next' : Except Failure Json → Call}
    (h : ∀ o o', Alike Eq o o' → (next o).Alike (next' o')) :
    (locate .cluster target filter next).Alike (locate .template target filter next') := by
  cases target with
  | entity v => exact h _ _ (.refl _)
  | name text => exact .listing fun o o' ho => h _ _ (alike_lookUp text filter ho)

/-- The operations that there are for clusters and for templates alike. -/
inductive Shared where
  | list
  | search (name : Option String) (filter : Selection.Filter)
  | get (target : Target) (filter : Selection.Filter)
  | delete (target : Target)
  | update (target : Target) (fields : Fields)

/-- The operation for a kind. -/
def Shared.operation (kind : Kind) : Shared → Operation
  | list => .list kind
  | search name filter => .search kind name filter
  | get target filter => .get kind target filter
  | delete target => .delete kind target
  | update target fields => .update kind target fields

/-- Shared operations do the same steps for clusters as for templates. -/
theorem alike_operation (location : Json) (op : Shared) :
    ((op.operation .cluster).call location).Alike ((op.operation .template).call location) := by
  cases op with
  | list => exact .listing fun o o' ho => .andThen (fun items => .value _) ho
  | search name filter =>
    exact .listing fun o o' ho =>
      .andThen (fun items => .andThen (fun found => .value _) (alike_select items name filter)) ho
  | get target filter =>
    exact alike_locate target filter fun o o' ho => .andThen (fun v => .value v) ho
  | delete target =>
    refine alike_locate target .all fun o o' ho => .andThen (fun entity => ?_) ho
    cases entity.isTruthy with
    | true =>
      exact ContainerInfra.alike_delete entity fun p p' hp =>
        .andThen (fun _ => .forget (.value _)) hp
    | false =>
      exact .note (wording_absentNote target.text) (.value _)
  | update target fields =>
    refine .forget (alike_locate target .all fun o o' ho => .andThen (fun entity => ?_) ho)
    cases entity.isTruthy with
    | true => exact ContainerInfra.alike_update entity fields
    | false =>
      exact .fail (alike_notFound target.text)

end Cloud

end MagnumClient
