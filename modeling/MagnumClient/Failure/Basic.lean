/-
MagnumClient.Failure.Basic — everything that can go wrong, and why.

A failure is either one of the library's own (a *cloud* failure) or foreign: an
error that came from outside, a value that was thrown, a request that found no
answer or a bad one, a query that does not read or run, an operation on a value
of the wrong shape.

Cloud failures carry a cause, so failures are chains. Where a failure has no
cause, its cause is `Failure.nothing`, the thrown absent value: throwing nothing
and having no cause are the same to a reader of the chain.

A failed request remembers what of itself is needed to explain it: method and
URL, and the answer if there was one. It also remembers on whose behalf it was
sent (`sender`), because that is what the log names.
-/
import MagnumClient.Json.Printer
import MagnumClient.Query.Token
import MagnumClient.Config.Issue

namespace MagnumClient

/-- The cloud failures that are told apart by kind alone. -/
inductive CloudKind where
  | cloud
  | configuration
  | operation
  | notFound
  | multipleMatches
deriving Repr, DecidableEq

/-- Whether failures of this kind are failures of an operation, as opposed to
failures that have nothing to do with the operation that met them. -/
def CloudKind.isOperation : CloudKind → Bool
  | cloud => false
  | configuration => false
  | operation => true
  | notFound => true
  | multipleMatches => true

/-- What a cloud failure carries beside its message. -/
inductive Extra where
  | nothing
  | value (v : Json)
  | issues (list : List Config.Issue)

/-- What is known of the answer that made a request fail. -/
structure HttpFacts where
  statusCode : Option Float
  requestId : Option String
  details : Option String
  url : Option String

/-- An answer of the service. -/
structure Response where
  status : Float
  statusText : String
  data : Option Json
  headers : Fields

/-- On whose behalf a request was sent. -/
structure Sender where
  service : String
  operation : String
deriving Repr, DecidableEq

/-- A request that failed: refused by the service, if there is a response, or
lost on the way. -/
structure RequestFailure where
  message : String
  code : Option String
  method : Option String
  url : Option String
  response : Option Response
  sender : Option Sender

/-- Whether a value says of itself that it is a failed request. -/
def Json.saysRequest : Json → Bool
  | obj fields =>
    match Fields.get? "isAxiosError" fields with
    | some (bool true) => true
    | _ => false
  | _ => false

/-- A value that is thrown as what it is. One that says of itself that it is a failed request is
taken for one. -/
abbrev Thrown := { v : Json // v.saysRequest = false }

/-- What can go wrong. -/
inductive Failure where
  /-- An error that came from outside, by the name of its kind. -/
  | foreign (name message : String)
  /-- A value that was thrown and is no error. -/
  | thrown (value : Option Thrown)
  /-- A failed request. -/
  | request (r : RequestFailure)
  /-- A query that does not read or run. -/
  | query (p : Query.Problem)
  /-- An operation on a value whose shape does not allow it. -/
  | misshapen (message : String)
  /-- A cloud failure of a kind. -/
  | cloud (kind : CloudKind) (message : String) (extra : Extra) (cause : Failure)
  /-- A cloud failure that stems from an answer of the service. -/
  | http (message : String) (facts : HttpFacts) (extra : Extra) (cause : Failure)
  /-- A required field is missing from a record. -/
  | malformed (resource field : String)

namespace Failure

/-- No failure at all: the cause of a failure that has none. -/
def nothing : Failure := thrown none

instance : Inhabited Failure := ⟨nothing⟩

/-- A failure of an operation, without a cause. -/
def operation (message : String) : Failure := cloud .operation message .nothing nothing

/-- A failure of the configuration, without a cause. -/
def configuration (message : String) (extra : Extra) : Failure :=
  cloud .configuration message extra nothing

/-- Whether a failure is one of the library's own. -/
def isCloud : Failure → Bool
  | cloud .. => true
  | http .. => true
  | malformed .. => true
  | _ => false

/-- What a failure says. -/
def message : Failure → String
  | foreign _ m => m
  | thrown none => "undefined"
  | thrown (some v) => v.val.plainText
  | request r => r.message
  | query _ => "query error"
  | misshapen m => m
  | cloud _ m _ _ => m
  | http m _ _ _ => m
  | malformed resource field =>
    "Malformed " ++ resource ++ " record: missing required field '" ++ field ++ "'"

/-- Whether there is a text for what a failure says. -/
def hasText : Failure → Bool
  | thrown (some v) => v.val.hasText
  | _ => true

/-- The failure behind a failure. -/
def cause : Failure → Failure
  | cloud _ _ _ c => c
  | http _ _ _ c => c
  | _ => nothing

/-- What is known of the answer behind a failure. -/
def facts? : Failure → Option HttpFacts
  | http _ f _ _ => some f
  | _ => none

end Failure

end MagnumClient
