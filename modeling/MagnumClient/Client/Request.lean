/-
MagnumClient.Client.Request — requests, and what the service answers.

`Ask` is what a caller wants: a method and a place relative to a service's
endpoint, on behalf of a service and one of its operations. `Request` is what
leaves: the whole URL, the headers and the body.

Headers are gathered from several records. A record put over another replaces
fields of the same name; when the result is sent, names that differ in case
alone are one header, spelled as it was first, with the last value. A header
whose value is null or false is not sent.
-/
import MagnumClient.Failure.Basic
import MagnumClient.Json.Reader
import MagnumClient.Path

namespace MagnumClient

/-! ## 1. Methods -/

/-- The methods that requests use. -/
inductive Method where
  | get
  | post
  | patch
  | delete
deriving Repr, DecidableEq

/-- The name of a method. -/
def Method.name : Method → String
  | get => "GET"
  | post => "POST"
  | patch => "PATCH"
  | delete => "DELETE"

/-! ## 2. Headers -/

/-- The headers that are sent. -/
abbrev Headers := List (String × Option String)

namespace Headers

/-- The text of a header's value, if it is sent. -/
def valueOf : Json → Option String
  | .null => none
  | .bool false => none
  | v => some v.plainText

/-- Sets a header; one of the same name but for case keeps its spelling. -/
def put (name : String) (value : Option String) : Headers → Headers
  | [] => [(name, value)]
  | (k, v) :: rest =>
    if k.toLower = name.toLower then (k, value) :: rest else (k, v) :: put name value rest

/-- The value of a header, if it is sent. -/
def get? (name : String) : Headers → Option String
  | [] => none
  | (k, v) :: rest => if k.toLower = name.toLower then v else get? name rest

/-- The headers that every request starts from. -/
def standard : Headers :=
  [("Accept", some "application/json"), ("Content-Type", some "application/json;charset=UTF-8")]

/-- Puts the fields of a record over headers. -/
def putAll (fields : Fields) (headers : Headers) : Headers :=
  fields.foldl (fun acc f => put f.1 (valueOf f.2) acc) headers

end Headers

/-- The header that carries the token. -/
def tokenHeader : String := "X-Auth-Token"

/-- The header that names the version of the service's interface. -/
def versionHeader : String := "OpenStack-API-Version"

/-! ## 3. What callers ask -/

/-- Choices of a caller about one request: headers over the usual ones, another
time limit, and whether a text in the answer is taken as it is. -/
structure Choices where
  headers : Fields
  timeout : Option Float
  verbatim : Bool

/-- No choices. -/
def Choices.usual : Choices := ⟨[], none, false⟩

/-- What a caller asks of the service. Without a `base` the place is relative to
the endpoint of the service that the sender names. -/
structure Ask where
  method : Method
  base : Option Path.Part
  place : Path.Part
  params : Option Json
  body : Option Json
  sender : Sender
  choices : Choices

/-- A request as it leaves. -/
structure Request where
  method : Method
  url : String
  headers : Headers
  body : Option Json
  params : Option Json
  timeout : Float

/-- The body that a value is sent as: a text that is itself a document is sent
as that document. -/
def sentBody : Json → Json
  | .str s => (Json.parse? s).getD (.str s)
  | v => v

/-! ## 4. What comes back -/

/-- What a request meets. -/
inductive Reply where
  /-- An answer. -/
  | answer (r : Response)
  /-- No answer. -/
  | lost (message : String) (code : Option String)
  /-- A failure of another kind. -/
  | fails (f : Failure)

/-- The data of an answer: a text that is a document is read as one, unless it is
to be taken as it is. -/
def decoded (verbatim : Bool) : Option Json → Option Json
  | some (.str s) =>
    if verbatim || s.isEmpty then some (.str s) else (Json.parse? s).or (some (.str s))
  | v => v

/-- The headers of an answer as they are read. -/
def receivedHeaders (fields : Fields) : Fields :=
  (fields.foldl
    (fun (acc : List (String × Json)) f =>
      let value := match f.2 with
        | .null => Json.null
        | .bool false => .bool false
        | .arr items => .arr items
        | v => .str v.plainText
      putSpelled f.1 value acc)
    [])
where
  /-- Sets a field; one of the same name but for case keeps its spelling. -/
  putSpelled (name : String) (value : Json) : List (String × Json) → List (String × Json)
    | [] => [(name, value)]
    | (k, v) :: rest =>
      if k.toLower = name.toLower then (k, value) :: rest
      else (k, v) :: putSpelled name value rest

/-- An answer as it is read. -/
def received (verbatim : Bool) (r : Response) : Response :=
  { r with data := decoded verbatim r.data, headers := receivedHeaders r.headers }

/-- The least status that means refusal. -/
def refusalStatus : Float := 400

/-- What a request comes to: the data of an answer that is no refusal, or why it
failed. -/
def outcome (ask : Ask) (request : Request) : Reply → Except Failure (Option Json)
  | .answer r =>
    let a := received ask.choices.verbatim r
    if r.status ≥ refusalStatus then
      .error <| .request
        { message := "Request failed with status code " ++ Decimal.text r.status
          code := some "ERR_BAD_REQUEST"
          method := some request.method.name
          url := some request.url
          response := some a
          sender := some ask.sender }
    else .ok a.data
  | .lost message code =>
    .error <| .request
      { message := message
        code := code
        method := some request.method.name
        url := some request.url
        response := none
        sender := some ask.sender }
  | .fails (.request r) =>
    .error (.request { r with response := r.response.map (received ask.choices.verbatim) })
  | .fails f => .error f

/-! ## 5. Replies to come -/

/-- A reply, and the method that it is meant for if it is not for any. -/
structure Prepared where
  only : Option String
  reply : Reply

/-- Whether a reply is for a method. -/
def Prepared.suits (m : Method) (p : Prepared) : Bool := p.only.all (· == m.name)

/-- Takes the first reply that is for a method. -/
def takeReply (m : Method) : List Prepared → Option (Reply × List Prepared)
  | [] => none
  | p :: rest =>
    if p.suits m then some (p.reply, rest)
    else (takeReply m rest).map fun t => (t.1, p :: t.2)

/-- What a request meets when no reply is left for it. -/
def Reply.missing : Reply := lost "no reply" none

theorem length_takeReply {m : Method} {ps rest : List Prepared} {r : Reply}
    (h : takeReply m ps = some (r, rest)) : rest.length < ps.length := by
  induction ps generalizing rest with
  | nil => simp [takeReply] at h
  | cons p ps ih =>
    unfold takeReply at h
    split at h
    · simp only [Option.some.injEq, Prod.mk.injEq] at h
      simp [← h.2]
    · obtain ⟨⟨r', rest'⟩, ht, he⟩ := Option.map_eq_some_iff.mp h
      simp only [Prod.mk.injEq] at he
      obtain ⟨rfl, rfl⟩ := he
      have := ih ht
      simp only [List.length_cons]
      omega

end MagnumClient
