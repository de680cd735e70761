import SymbolSieve.Backend.Parameters
import SymbolSieve.Form.Complaint
import SymbolSieve.Json.Disclosed
import SymbolSieve.Json.Strict

/-!
# Requests to the service and its replies

A request has a method, a target and a body. A reply has a status; most replies have a body.

## What is here

* `ServiceRequest`: a request.
* `Reply`: the kinds of reply, and `Reply.status`.
* `Reply.ofValue`: the reply with a value as it was found.
* `Reply.ofComplaints`, `Reply.ofExcept`: the replies to faults.
-/

set_option autoImplicit false

namespace SymbolSieve

/-- A request to the service. -/
structure ServiceRequest where
  /-- The method, in upper case. -/
  method : String
  path : String
  params : Parameters := []
  body : String := ""
  deriving DecidableEq, Repr

/-- A reply of the service. -/
inductive Reply where
  /-- The request was fulfilled. -/
  | done (value : Value)
  /-- Something was created. -/
  | created (value : Value)
  /-- The request was fulfilled, and there is nothing to say. -/
  | noContent
  /-- The request was refused, for a reason in words. -/
  | refused (status : Nat) (reason : String)
  /-- The values of the request were not accepted. -/
  | rejected (complaints : List Complaint)
  /-- The service failed. -/
  | failed
  /-- A reply of which only the status is sent. -/
  | bare (status : Nat)

namespace Reply

/-- The status of a reply. -/
def status : Reply → Nat
  | done _ => 200
  | created _ => 201
  | noContent => 204
  | refused status _ => status
  | rejected _ => 422
  | failed => 500
  | bare status => status

/-- The reply to a request for something that does not exist. -/
def notFound : Reply := refused 404 "Not Found"

/-- The reply to a request with a method that is not allowed. -/
def notAllowed : Reply := refused 405 "Method Not Allowed"

/-- The reply to complaints. It shows the values at fault, so the service fails if one of them is no
strict JSON. -/
def ofComplaints (complaints : List Complaint) : Reply :=
  if complaints.all fun c => Json.isStrict (Json.disclosed c.given) then rejected complaints
  else failed

/-- The reply with a value as it was found. The service fails if what is shown of it is no strict
JSON. -/
def ofValue (value : Value) : Reply :=
  let shown := Json.disclosed value
  if Json.isStrict shown then done shown else failed

/-- The reply that a fallible computation gives. -/
def ofExcept {ε : Type} : Except ε Reply → Reply
  | .ok reply => reply
  | .error _ => failed

end Reply

end SymbolSieve
