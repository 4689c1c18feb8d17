/-
MagnumClient.Cloud.ContainerInfra — the operations of the service, uncached.

Each operation is one exchange with the service, except reading a collection,
which takes one per page. A page says where the next one is; the page that does
not is the last, as is an empty answer.

A created cluster is what was asked for with the answer put over it, because the
answer names little more than the new identifier. An updated resource is the
resource as it was, the update over it and the answer over that.
-/
import MagnumClient.Cloud.Call
import MagnumClient.Client.Service
import MagnumClient.Update.Address
import MagnumClient.Update.Patch

namespace MagnumClient.ContainerInfra

/-! ## 1. Asks -/

/-- An ask of the container-infrastructure service. -/
def ask (method : Method) (place operation : String) (body : Option Json) : Ask where
  method := method
  base := none
  place := .segment place
  params := none
  body := body
  sender := ⟨containerInfra, operation⟩
  choices := .usual

/-- The ask for a page of a collection: the first one, or the one at a link. -/
def pageAsk (kind : Kind) : Option Path.Part → Ask
  | none => ask .get kind.place kind.listOperation none
  | some link => { ask .get "" kind.listOperation none with base := some link }

/-! ## 2. Pages -/

/-- The items of a page. A missing or null collection has none; a text has its
characters; any other value cannot be read as a list. -/
def pageItems : Option Json → Except Failure (List Json)
  | none => .ok []
  | some .null => .ok []
  | some (.arr items) => .ok items
  | some (.str s) => .ok (s.toList.map fun c => .str c.toString)
  | some _ =>
    .error (.misshapen "Spread syntax requires ...iterable[Symbol.iterator] to be a function")

/-- The link to the page after a page. -/
def nextLink (page : Json) : Option Path.Part :=
  ((page.field? "next").filter Json.isTruthy).map Path.Part.ofJson

/-- The items of the page that an answer holds, and the link to the next page. -/
def readPage (kind : Kind) (data : Option Json) : Except Failure (List Json × Option Path.Part) :=
  match data with
  | none => .ok ([], none)
  | some page =>
    if page.isTruthy then
      match pageItems (page.field? kind.collection) with
      | .error f => .error f
      | .ok items => .ok (items, nextLink page)
    else .ok ([], none)

/-! ## 3. Operations -/

/-- Reads a whole collection. -/
def list (kind : Kind) : Call :=
  .collect kind (Call.andThen fun items => .value (.arr items))

/-- Creates a resource. -/
def create (kind : Kind) (attributes : Json) (next : Outcome → Call) : Call :=
  .exchange (ask .post kind.place kind.createOperation (some attributes)) fun o =>
    match kind with
    | .template => next o
    | .cluster =>
      next (o.map fun answer =>
        some (.obj (Fields.overlay (Fields.ofPairs attributes.ownFields)
          ((answer.map Json.ownFields).getD []))))

/-- Updates a resource. -/
def update (kind : Kind) (entity : Json) (fields : Fields) : Call :=
  match Update.address entity with
  | .error f => .fail f
  | .ok id =>
    .exchange (ask .patch (kind.placeOf id) kind.updateOperation (some (Update.patchBody fields)))
      fun o => .done (o.map fun answer => some (.obj (Update.applied entity fields answer)))

/-- Deletes a resource. -/
def delete (kind : Kind) (entity : Json) (next : Except Failure Unit → Call) : Call :=
  match Update.address entity with
  | .error f => next (.error f)
  | .ok id =>
    .exchange (ask .delete (kind.placeOf id) kind.deleteOperation none) fun o =>
      next (o.map fun _ => ())

/-- The certificate of a cluster's authority. -/
def certificate (clusterId : String) (next : Outcome → Call) : Call :=
  .exchange (ask .get ("/certificates/" ++ clusterId) "getCertificate" none) next

/-- Has a key signed for a cluster. -/
def sign (clusterId csr : String) (next : Outcome → Call) : Call :=
  .exchange
    (ask .post "/certificates" "signCertificate"
      (some (.obj [("cluster_uuid", .str clusterId), ("csr", .str csr)]))) next

/-- The list of the services that run. -/
def services (next : Outcome → Call) : Call :=
  .exchange (ask .get "/mservices" "magnumServices" none) next

end MagnumClient.ContainerInfra
