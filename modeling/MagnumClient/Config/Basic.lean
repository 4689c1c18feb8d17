/-
MagnumClient.Config.Basic — the configuration of a cloud.

A configuration says where the container-infrastructure service is, how to
authenticate to it and how to talk to it, and describes the place in the cloud
that its resources belong to (`Location`). Records are tagged with that place,
so it also has the form of a document.
-/
import MagnumClient.Json.Basic

namespace MagnumClient

/-- The project that resources belong to. -/
structure Project where
  id : Option String
  name : Option String
  domainId : Option String
  domainName : Option String
deriving Repr, DecidableEq

/-- The place that resources belong to. -/
structure Location where
  cloud : String
  regionName : Option String
  zone : Option String
  project : Project
deriving Repr, DecidableEq

/-- The configuration of a cloud. A cached list stays valid for
`cacheExpiration` seconds, or until it is invalidated. -/
structure Config where
  endpoint : String
  token : String
  apiVersion : String
  timeout : Float
  strictMode : Bool
  cacheExpiration : Option Float
  location : Location

/-- An optional text as a document: null if there is none. -/
def Json.ofOption : Option String → Json
  | none => .null
  | some s => .str s

/-- A project as a document. -/
def Project.toJson (p : Project) : Json :=
  .obj [("id", .ofOption p.id), ("name", .ofOption p.name), ("domain_id", .ofOption p.domainId),
    ("domain_name", .ofOption p.domainName)]

/-- A location as a document. -/
def Location.toJson (l : Location) : Json :=
  .obj [("cloud", .str l.cloud), ("region_name", .ofOption l.regionName),
    ("zone", .ofOption l.zone), ("project", l.project.toJson)]

end MagnumClient
