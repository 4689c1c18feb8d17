/-
MagnumClient.Record.TemplateBody — the request that creates a cluster template.

A caller gives a name and options. Two options go by the caller's own names and
are sent under those of the service; every other option is sent as it is, except
that the name given counts over a `name` among the options.
-/
import MagnumClient.Json.Basic

namespace MagnumClient.Record

/-- The options that are sent under another name, and that name. -/
def renamedOptions : List (String × String) :=
  [("imageId", "image_id"), ("keypairId", "keypair_id"), ("coe", "coe")]

/-- The body of the request. -/
def templateBody (name : String) (options : Fields) : Fields :=
  renamedOptions.foldl
    (fun body o =>
      match Fields.get? o.1 options with
      | some v => Fields.put o.2 v body
      | none => body)
    (Fields.put "name" (.str name) (Fields.eraseAll (renamedOptions.map (·.1)) options))

end MagnumClient.Record
