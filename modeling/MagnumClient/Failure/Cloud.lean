/-
MagnumClient.Failure.Cloud — every failure as a cloud failure.

`toCloud` turns a failure into one of the library's own and leaves those
alone. A failed request becomes an `http` failure that says what was asked and
what came back; anything else becomes a failure of the operation with the same
message. Either way the failure it was is the cause. A value that was thrown and
has no text cannot be told so, and trying to is another failure, of which nothing
is said but that (`speechless`).

`wrap` puts an operation's own message in front of whatever it fails with. The
facts of an `http` failure are carried to the front, and failures that are not
failures of an operation pass unwrapped. So does the failure to make one of them.
-/
import MagnumClient.Failure.Basic
import MagnumClient.Text.Blank
import MagnumClient.Text.Capital

namespace MagnumClient

namespace Failure

/-! ## 1. What a body says -/

/-- The text of a field, if it is a string. -/
def textField? (name : String) (fields : Fields) : Option String :=
  (Fields.get? name fields).bind Json.str?

/-- What the first of a record's `errors` says. -/
def firstError? (fields : Fields) : Option String :=
  match Fields.get? "errors" fields with
  | some (.arr (.obj first :: _)) => (textField? "detail" first).or (textField? "title" first)
  | _ => none

/-- What the body of an answer says about an error: a text that is not blank,
the detail or title of the first of its errors, its fault, or its message. -/
def details? : Option Json → Option String
  | some (.str s) =>
    let t := Text.trim s
    if t.isEmpty then none else some t
  | some (.obj fields) =>
    ((firstError? fields).or (textField? "faultstring" fields)).or (textField? "message" fields)
  | _ => none

/-- The header that identifies a request to the people who run the service. -/
def requestIdHeader : String := "x-openstack-request-id"

end Failure

/-! ## 2. Failed requests -/

namespace RequestFailure

open Failure (details? textField? requestIdHeader)

/-- The target of a failed request as messages name it. -/
def target (r : RequestFailure) : String :=
  (r.method.map Text.inCapitals).getD "REQUEST" ++ " " ++ r.url.getD "unknown url"

/-- What is known of the answer to a failed request. -/
def facts (r : RequestFailure) : HttpFacts :=
  match r.response with
  | none => ⟨none, none, none, r.url⟩
  | some a => ⟨some a.status, textField? requestIdHeader a.headers, details? a.data, r.url⟩

/-- What a failed request is told as. -/
def text (r : RequestFailure) : String :=
  match r.response with
  | none => r.message ++ " for " ++ r.target
  | some a =>
    Decimal.text a.status ++ (if a.statusText.isEmpty then "" else " " ++ a.statusText) ++ ": " ++
      (details? a.data).getD "no details" ++ " for " ++ r.target

end RequestFailure

/-! ## 3. Cloud failures -/

namespace Failure

/-- The failure to say what was thrown, of a value without a text. -/
def speechless : Failure := misshapen "Cannot convert object to primitive value"

/-- What is made of a failure: a cloud failure, or the failure to make one of a value without a
text. -/
def toCloud : Failure → Failure
  | request r => http r.text r.facts .nothing (request r)
  | foreign n m => cloud .operation m .nothing (foreign n m)
  | thrown v =>
    if (thrown v).hasText then cloud .operation (thrown v).message .nothing (thrown v)
    else speechless
  | query p => cloud .operation (query p).message .nothing (query p)
  | misshapen m => cloud .operation m .nothing (misshapen m)
  | f => f

/-- A failure under the message of the operation that met it. -/
def under (message : String) (f : Failure) : Failure :=
  match f.toCloud with
  | http m facts extra cause => http message facts .nothing (http m facts extra cause)
  | cloud kind m extra cause =>
    if kind.isOperation then cloud .operation message .nothing (cloud kind m extra cause)
    else cloud kind m extra cause
  | g => g

/-- The outcome of an operation, its failures under a message. -/
def wrap {α : Type} (message : String) : Except Failure α → Except Failure α
  | .ok a => .ok a
  | .error f => .error (f.under message)

/-! ## 4. First facts -/

/-- A cloud failure is left alone. -/
theorem toCloud_of_isCloud {f : Failure} (h : f.isCloud = true) : f.toCloud = f := by
  cases f <;> simp_all [isCloud, toCloud]

/-- The result is a cloud failure iff there is a text to tell it by. -/
theorem isCloud_toCloud (f : Failure) : f.toCloud.isCloud = f.hasText := by
  cases f with
  | thrown v => cases h : (thrown v).hasText <;> simp [toCloud, h, speechless, isCloud]
  | _ => rfl

/-- Doing it twice changes nothing. -/
theorem toCloud_toCloud {f : Failure} (h : f.hasText = true) : f.toCloud.toCloud = f.toCloud :=
  toCloud_of_isCloud ((isCloud_toCloud f).trans h)

theorem toCloud_of_not_hasText {f : Failure} (h : f.hasText = false) : f.toCloud = speechless := by
  cases f with
  | thrown v => rw [toCloud, if_neg (by simp [h])]
  | _ => cases h

end Failure

end MagnumClient
