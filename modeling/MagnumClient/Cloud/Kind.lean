/-
MagnumClient.Cloud.Kind — the two kinds of resources that are listed and changed.

Clusters and cluster templates are handled alike. What differs is spelling: the
collection they live in, what messages call them, and what the log calls the
operations on them.
-/
import MagnumClient.Selection.Resolver

namespace MagnumClient

/-- A kind of resource. -/
inductive Kind where
  | cluster
  | template
deriving Repr, DecidableEq

namespace Kind

/-- The collection that resources of the kind live in. -/
def collection : Kind → String
  | cluster => "clusters"
  | template => "clustertemplates"

/-- The place of the collection. -/
def place (k : Kind) : String := "/" ++ k.collection

/-- The place of a resource in the collection. -/
def placeOf (k : Kind) (id : String) : String := k.place ++ "/" ++ id

/-- How resources of the kind are found. -/
def resolver : Kind → Selection.Resolver
  | cluster => ⟨"COE cluster", "uuid"⟩
  | template => ⟨"cluster template", "uuid"⟩

/-- The operation that lists the collection. -/
def listOperation : Kind → String
  | cluster => "clusters"
  | template => "clusterTemplates"

/-- The operation that creates a resource. -/
def createOperation : Kind → String
  | cluster => "createCluster"
  | template => "createClusterTemplate"

/-- The operation that updates a resource. -/
def updateOperation : Kind → String
  | cluster => "updateCluster"
  | template => "updateClusterTemplate"

/-- The operation that deletes a resource. -/
def deleteOperation : Kind → String
  | cluster => "deleteCluster"
  | template => "deleteClusterTemplate"

/-- What the log says of a resource that is to be deleted and does not exist. -/
def absentNote (k : Kind) (name : String) : String :=
  match k with
  | cluster => "COE Cluster " ++ name ++ " does not exist"
  | template => "Cluster template " ++ name ++ " does not exist"

/-- The failure of a resource that is to be updated and does not exist. -/
def notFound (k : Kind) (name : String) : Failure :=
  match k with
  | cluster => .cloud .notFound ("COE cluster " ++ name ++ " not found.") .nothing .nothing
  | template => .cloud .notFound ("Cluster template " ++ name ++ " not found.") .nothing .nothing

end Kind

end MagnumClient
