/-
MagnumClient.Record.Schema — the fields of each kind of record.

A schema lists the fields that a record must have, in the order in which they
are looked for, those it may have, and those that are read but kept back. A
required field can be exposed under another name; then its old name is *legacy*
and only shown outside strict mode. A field that is kept back is legacy too, and
shown only if it has a value.
-/

namespace MagnumClient.Record

/-- A required field: its name in the record, and the name it is shown under if
that is another. -/
structure Required where
  key : String
  renamed : Option String
deriving Repr, DecidableEq

/-- The name that a required field is shown under. -/
def Required.name (f : Required) : String := f.renamed.getD f.key

/-- The fields of a kind of record. -/
structure Schema where
  resource : String
  required : List Required
  optional : List String
  withheld : List String
deriving Repr, DecidableEq

/-- A required field under its own name. -/
def plain (key : String) : Required := ⟨key, none⟩

/-- A required field under another name. -/
def renamed (key name : String) : Required := ⟨key, some name⟩

/-- The keys that a schema reads. -/
def Schema.keys (s : Schema) : List String :=
  s.required.map Required.key ++ s.optional ++ s.withheld

/-- The fields of a cluster. -/
def cluster : Schema where
  resource := "COE cluster"
  required := [renamed "uuid" "id"]
  optional := ["status", "cluster_template_id", "stack_id", "keypair", "master_count",
    "create_timeout", "node_count", "name"]
  withheld := []

/-- The fields of a cluster template. -/
def clusterTemplate : Schema where
  resource := "cluster template"
  required :=
    [renamed "uuid" "id", renamed "public" "is_public",
      renamed "registry_enabled" "is_registry_enabled", renamed "tls_disabled" "is_tls_disabled"] ++
    ["apiserver_port", "cluster_distro", "coe", "created_at", "dns_nameserver",
      "docker_volume_size", "external_network_id", "flavor_id", "image_id", "insecure_registry",
      "keypair_id", "name", "network_driver", "server_type", "updated_at",
      "volume_driver"].map plain
  optional := ["fixed_network", "fixed_subnet", "http_proxy", "https_proxy", "labels",
    "master_flavor_id", "no_proxy"]
  withheld := ["floating_ip_enabled"]

/-- The fields of an entry of the service list. -/
def service : Schema where
  resource := "Magnum service"
  required := ["binary", "created_at", "disabled_reason", "host", "id", "report_count", "state",
    "updated_at"].map plain
  optional := []
  withheld := []

end MagnumClient.Record
