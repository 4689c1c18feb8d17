/-
MagnumClient.Client.Service — the services that a client knows.

A service has a name, headers of its own, and an endpoint that is asked for when
it is first needed and then kept; an empty endpoint is not kept. A client starts
with the container-infrastructure service and can be given others. A service
registered under a name that is taken replaces the other in look-ups, but the
other goes on counting how often its endpoint was asked for.
-/
import MagnumClient.Client.Request

namespace MagnumClient

/-- What a client is set up with. -/
structure Settings where
  endpoint : String
  token : String
  apiVersion : String
  timeout : Float

/-- A service and what is known of its endpoint. -/
structure Service where
  name : String
  endpoint : String
  headers : Fields
  builtIn : Bool
  kept : String
  asked : Nat

/-- A client: its settings, the token it uses now and its services in the order
in which they were registered. -/
structure Client where
  settings : Settings
  token : String
  services : List Service

/-- The name of the built-in service. -/
def containerInfra : String := "ContainerInfra"

namespace Service

/-- The container-infrastructure service. -/
def ofSettings (s : Settings) : Service where
  name := containerInfra
  endpoint := s.endpoint
  headers := [(versionHeader, .str ("container-infra " ++ s.apiVersion))]
  builtIn := true
  kept := ""
  asked := 0

/-- A service of the caller's. -/
def custom (name endpoint : String) (headers : Fields) : Service where
  name := name
  endpoint := endpoint
  headers := headers
  builtIn := false
  kept := ""
  asked := 0

/-- Asks for the endpoint. -/
def ask (s : Service) : Service := { s with asked := s.asked + 1 }

/-- Keeps the endpoint. -/
def keep (s : Service) : Service := { s with kept := s.endpoint }

end Service

namespace Client

/-- A client that has not been used. -/
def start (s : Settings) : Client := ⟨s, s.token, [.ofSettings s]⟩

/-- Adds a service. -/
def register (s : Service) (c : Client) : Client := { c with services := c.services ++ [s] }

/-- The place of the service that a name stands for: the last registered under
it. -/
def find? (name : String) (c : Client) : Option Nat :=
  ((c.services.zipIdx.filter fun p => p.1.name == name).getLast?).map (·.2)

/-- The failure of a name that no service has. -/
def unregistered (name : String) : Failure :=
  .operation ("No API service registered under " ++ name)

/-- Changes a service. -/
def modifyService (i : Nat) (f : Service → Service) (c : Client) : Client :=
  { c with services := c.services.modify i f }

/-- The header that authenticates; none without a token. -/
def authHeaders (c : Client) : Fields :=
  if c.token.isEmpty then [] else [(tokenHeader, .str c.token)]

/-- The headers of a request on behalf of a service. -/
def headersFor (s : Service) (choices : Choices) (c : Client) : Headers :=
  Headers.putAll (Fields.overlay (Fields.overlay (Fields.ofPairs s.headers) c.authHeaders)
    choices.headers) Headers.standard

/-- The request that an ask becomes at an endpoint. -/
def request (ask : Ask) (base : Path.Part) (s : Service) (c : Client) : Request where
  method := ask.method
  url := Path.join [base, ask.place]
  headers := c.headersFor s ask.choices
  body := ask.body.map sentBody
  params := ask.params
  timeout := ask.choices.timeout.getD c.settings.timeout

end Client

end MagnumClient
