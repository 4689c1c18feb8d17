/-
MagnumClient.Cloud.Facade — the operations on a cloud.

Listings are cached per kind, and forgotten by the operations that change what
they list: creating and deleting forget when the service has confirmed, updating
forgets before it looks the resource up. A resource is looked up by a text that
names it, or passed as it is. Certificates and services are never cached, and
their failures are told under a message of the operation.
-/
import MagnumClient.Cloud.ContainerInfra
import MagnumClient.Failure.Cloud
import MagnumClient.Record.Normalize
import MagnumClient.Record.TemplateBody

namespace MagnumClient.Cloud

open Selection (Filter)

/-! ## 1. Looking up -/

/-- What a caller passes for a resource: a text that names it, or the resource. -/
inductive Target where
  | name (text : String)
  | entity (value : Json)

/-- A target as messages name it. -/
def Target.text : Target → String
  | name t => t
  | entity v => v.plainText

/-- The resource of a listing that a text names; null if there is none. -/
def lookUp (kind : Kind) (text : String) (filter : Filter) :
    Except Failure (List Json) → Except Failure Json
  | .error f => .error f
  | .ok entities =>
    match kind.resolver.resolve entities text filter with
    | .error f => .error f
    | .ok found => .ok ((found.map (·.1)).getD .null)

/-- The resource that a target stands for; null if there is none. -/
def locate (kind : Kind) (target : Target) (filter : Filter)
    (next : Except Failure Json → Call) : Call :=
  match target with
  | .entity v => next (.ok v)
  | .name t => .listing kind fun o => next (lookUp kind t filter o)

/-! ## 2. Operations -/

/-- Lists the resources of a kind. -/
def list (kind : Kind) : Call :=
  .listing kind (Call.andThen fun items => .value (.arr items))

/-- The resources of a kind that answer to a name and pass a filter. -/
def search (kind : Kind) (name : Option String) (filter : Filter) : Call :=
  .listing kind <| Call.andThen fun items =>
    Call.andThen (fun found => .value (.arr (found.map (·.1))))
      (kind.resolver.select items name filter)

/-- The one resource that answers to a name and passes a filter. -/
def get (kind : Kind) (target : Target) (filter : Filter) : Call :=
  locate kind target filter (Call.andThen .value)

/-- Creates a resource. -/
def create (kind : Kind) (attributes : Fields) : Call :=
  ContainerInfra.create kind (.obj attributes) fun o =>
    match o with
    | .error f => .fail f
    | .ok v => .forget kind (.done (.ok v))

/-- The attributes of a new cluster. -/
def clusterAttributes (name templateId : String) (extra : Fields) : Fields :=
  Fields.put "cluster_template_id" (.str templateId) (Fields.put "name" (.str name) extra)

/-- Deletes a resource; false if it does not exist. -/
def delete (kind : Kind) (target : Target) : Call :=
  locate kind target .all <| Call.andThen fun entity =>
    if entity.isTruthy then
      ContainerInfra.delete kind entity <| Call.andThen fun _ =>
        .forget kind (.value (.bool true))
    else .note (kind.absentNote target.text) (.value (.bool false))

/-- Updates a resource, which must exist. -/
def update (kind : Kind) (target : Target) (fields : Fields) : Call :=
  .forget kind <|
    locate kind target .all <| Call.andThen fun entity =>
      if entity.isTruthy then ContainerInfra.update kind entity fields
      else .fail (kind.notFound target.text)

/-- The certificate of a cluster's authority. -/
def certificate (clusterId : String) : Call :=
  ContainerInfra.certificate clusterId fun o =>
    .done (Failure.wrap ("Error fetching CA cert for the cluster " ++ clusterId) o)

/-- Has a key signed for a cluster. -/
def sign (clusterId csr : String) : Call :=
  ContainerInfra.sign clusterId csr fun o =>
    .done (Failure.wrap ("Error signing certs for cluster " ++ clusterId) o)

/-- The records of an answer to the question which services run. -/
def serviceRecords (answer : Option Json) : Except Failure (List Json) :=
  match answer.bind (Json.field? "mservices") with
  | none => .ok []
  | some .null => .ok []
  | some (.arr records) => .ok records
  | some _ => .error (.misshapen "magnumServices.map is not a function")

/-- The services that run, in their normal form. -/
def services (location : Json) : Call :=
  ContainerInfra.services fun o =>
    .done <| Failure.wrap "Error fetching Magnum services list" <|
      match o with
      | .error f => .error f
      | .ok answer =>
        match serviceRecords answer with
        | .error f => .error f
        | .ok records =>
          (Record.normalizeAll Record.service false location records).map fun rs => some (.arr rs)

/-- Lists the clusters and gives their normal forms. -/
def normalized (strict : Bool) (location : Json) : Call :=
  .listing .cluster <| Call.andThen fun items =>
    Call.andThen (fun rs => .value (.arr rs))
      (Record.normalizeAll Record.cluster strict location items)

/-! ## 3. All operations -/

/-- An operation on a cloud. -/
inductive Operation where
  | list (kind : Kind)
  | search (kind : Kind) (name : Option String) (filter : Filter)
  | get (kind : Kind) (target : Target) (filter : Filter)
  | createCluster (name templateId : String) (extra : Fields)
  | createTemplate (name : String) (options : Fields)
  | delete (kind : Kind) (target : Target)
  | update (kind : Kind) (target : Target) (fields : Fields)
  | certificate (clusterId : String)
  | sign (clusterId csr : String)
  | services

/-- What an operation does, on a cloud at a location. -/
def Operation.call (location : Json) : Operation → Call
  | .list kind => Cloud.list kind
  | .search kind name filter => Cloud.search kind name filter
  | .get kind target filter => Cloud.get kind target filter
  | .createCluster name templateId extra =>
    Cloud.create .cluster (clusterAttributes name templateId extra)
  | .createTemplate name options => Cloud.create .template (Record.templateBody name options)
  | .delete kind target => Cloud.delete kind target
  | .update kind target fields => Cloud.update kind target fields
  | .certificate clusterId => Cloud.certificate clusterId
  | .sign clusterId csr => Cloud.sign clusterId csr
  | .services => Cloud.services location

end MagnumClient.Cloud
