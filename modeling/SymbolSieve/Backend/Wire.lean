import SymbolSieve.Backend.Parameters

/-!
# Requests and their outcomes

What passes between the library and the backend that supplies the symbols. The outcomes of the
coming requests are given in advance, as a list that is taken from the front; after its end every
request is answered with an empty list of symbols.

## What is here

* `Request`, `Response`: what is sent, and what comes back.
* `BackendError`, `ClientFault`: why a request gave no usable answer.
* `Outcome`, `Wire`: the outcomes that are still to come, and the requests that were sent.
-/

set_option autoImplicit false

namespace SymbolSieve

/-- A request: its path, percent-encoded, and its parameters. -/
structure Request where
  path : String
  params : Parameters
  deriving DecidableEq, Repr

/-- An answer of the backend. -/
structure Response where
  status : Int
  body : String
  deriving DecidableEq, Repr

/-- Why the backend gave no usable answer. -/
inductive BackendError where
  | unreachable (base message : String)
  | refused (path : String) (status : Int)
  | notJson (path : String)
  deriving DecidableEq, Repr

/-- The words for an error. -/
def BackendError.message : BackendError → String
  | unreachable base message => "Backend unreachable at " ++ base ++ ": " ++ message
  | refused path status => "GET " ++ path ++ " failed with status " ++ Text.intText status
  | notJson path => "GET " ++ path ++ " returned invalid JSON"

/-- The status that an error carries. -/
def BackendError.status? : BackendError → Option Int
  | refused _ status => some status
  | _ => none

/-- What can go wrong in a request. -/
inductive ClientFault where
  | backend (e : BackendError)
  /-- An answer could not be used, for a reason that has a name. -/
  | broken (kind : String)
  /-- The request has no valid address. -/
  | badAddress
  | value (fault : ValueFault)
  deriving DecidableEq, Repr

/-- What becomes of a request. -/
inductive Outcome where
  | answered (r : Response)
  /-- The backend was not reached; such a request may be sent again. -/
  | unreached (message : String)
  /-- The exchange went wrong in another way. -/
  | broken (fault : ClientFault)
  deriving DecidableEq, Repr

/-- The answer to every request for which nothing else is given. -/
def Response.empty : Response := ⟨200, "\x7b\x22items\x22: []\x7d"⟩

/-- The outcomes that are still to come, and the requests that were sent. -/
structure Wire where
  coming : List Outcome := []
  sent : List Request := []
  deriving DecidableEq, Repr

/-- Sends a request. -/
def Wire.send (r : Request) (w : Wire) : Outcome × Wire :=
  match w.coming with
  | [] => (.answered .empty, { w with sent := w.sent ++ [r] })
  | o :: rest => (o, { coming := rest, sent := w.sent ++ [r] })

end SymbolSieve
