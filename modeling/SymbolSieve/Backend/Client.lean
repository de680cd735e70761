import SymbolSieve.Backend.Address
import SymbolSieve.Backend.Parameters
import SymbolSieve.Desk
import SymbolSieve.Spec.Basic
import SymbolSieve.Value.Order
import SymbolSieve.Vocabulary

/-!
# Asking the backend

The backend supplies the records that are filtered. It understands only the coarse filters (kind,
state and search text), so these are sent along and everything else is left to the selection. A
request that did not reach the backend is sent again, a limited number of times.

## What is here

* `Client`: where the backend is, and how often a request is sent.
* `Client.attempt`: a request with its repetitions.
* `fetchStats`, `fetchList`, `fetchSymbols`, `fetchFileSymbols`: what the backend can be asked for.
-/

set_option autoImplicit false

namespace SymbolSieve

/-- Where the backend is, and how often a request is sent. -/
structure Client where
  /-- The root of the backend as it was given, without a slash at the end. -/
  base : String
  root : Address
  attempts : Int
  deriving DecidableEq, Repr

namespace Client

/-! ## Settings -/

/-- The root of the backend when none is given. -/
def defaultBase : String := "http://127.0.0.1:7878"

/-- How often a request is sent when nothing is said about it. -/
def defaultAttempts : Int := 3

/-- The client for a root and a number of attempts, if the root is an address; empty text and zero
stand for the defaults. -/
def ofSettings (base : String) (attempts : Int) : Option Client := do
  let base := dropSlashes (if base.isEmpty then defaultBase else base)
  let root ← (← Address.ofText? base).asRoot
  return { base, root, attempts := if attempts = 0 then defaultAttempts else attempts }

/-! ## Requests -/

/-- The request for a path, and its address. Parameters that are given take the place of those in
the root of the backend, and have to fit into an address. -/
def request? (c : Client) (path : String) (params : Option Parameters) :
    Option (Request × Address) := do
  let address ← c.root.below (← Address.ofText? path)
  let (path, query) := Percent.splitQuery address.target
  if params.all Parameters.fits then
    let params := params.getD (Parameters.ofQuery (query.getD []))
    return (⟨String.ofList path, params.grouped⟩, address)
  else none

/-- A request, sent again as long as the backend is not reached and attempts are left. The first
attempt is always made. -/
def attempt (r : Request) : Nat → Wire → Except Outcome Response × Wire
  | 0, w => match w.send r with
    | (.answered a, w) => (.ok a, w)
    | (o, w) => (.error o, w)
  | more + 1, w => match w.send r with
    | (.answered a, w) => (.ok a, w)
    | (.unreached _, w) => attempt r more w
    | (o, w) => (.error o, w)

/-- An action that uses the wire. -/
def onWire {α : Type} (action : Wire → α × Wire) : StateM Desk α :=
  fun d => let (x, w) := action d.wire; (x, { d with wire := w })

/-- The answer to a request that is sent. An answer from an address that does not say how it is
reached is of no use. -/
def exchange (c : Client) (r : Request) (address : Address) :
    StateM Desk (Except ClientFault Response) := do
  match ← onWire (attempt r (c.attempts.toNat - 1)) with
  | .ok r => return if address.isReachable then .ok r else .error (.value .malformed)
  | .error (.unreached message) => return .error (.backend (.unreachable c.base message))
  | .error (.broken fault) => return .error fault
  | .error (.answered r) => return .ok r

/-- The answer to a request for a path. -/
def send (c : Client) (path : String) (params : Option Entries) :
    StateM Desk (Except ClientFault Response) := do
  let shown := match params with
    | some es => (Value.map es).quoted
    | none => Value.null.quoted
  match shown, params.mapM Parameters.ofEntries with
  | .error fault, _ => return .error (.value fault)
  | .ok shown, sent =>
    Desk.report .debug "backend" ("GET " ++ path ++ " params=" ++ shown)
    match sent with
    | .error fault => return .error (.value fault)
    | .ok sent => match c.request? path sent with
      | some (r, address) => c.exchange r address
      | none => return .error .badAddress

/-- The value that the body of an answer holds. -/
def decodeBody (path : String) (r : Response) : Except ClientFault Value :=
  match Json.decodeBytes r.body.toUTF8 with
  | .ok v => .ok v
  | .error .tooDeep => .error (.value .tooDeep)
  | .error _ => .error (.backend (.notJson path))

/-- The value that the backend has at a path. -/
def getJson (c : Client) (path : String) (params : Option Entries) :
    StateM Desk (Except ClientFault Value) := do
  match ← c.send path params with
  | .error e => return .error e
  | .ok r =>
    if 400 ≤ r.status then return .error (.backend (.refused path r.status))
    return decodeBody path r

/-! ## Questions -/

/-- Statistics of the code base. -/
def fetchStats (c : Client) : StateM Desk (Except ClientFault Value) := c.getJson "/api/stats" none

/-- The parameters for a list of symbols: the coarse filters and the greatest length. -/
def listParams (spec : Option Spec) (limit : Value) : Except ValueFault Entries := do
  let filters : Entries := match spec with
    | none => []
    | some s =>
      (if s.kind.equal (.text "all") then [] else [("type", s.kind)]) ++
      (if s.state.equal (.text "all") then [] else [("state", s.state)]) ++
      (if s.search.truthy then [("search", s.search)] else [])
  let length ← (limit.orElse (.int Vocabulary.listLimit)).shown
  return filters ++ [("limit", .text length)]

/-- The list of symbols, as the backend gives it. -/
def fetchList (c : Client) (spec : Option Spec) (limit : Value) :
    StateM Desk (Except ClientFault Value) := do
  match listParams spec limit with
  | .error fault => return .error (.value fault)
  | .ok params => c.getJson "/api/list" (some params)

/-- The records in a list of symbols; what does not count as present is an empty list. -/
def recordsOf (answer : Value) : Except ClientFault Value :=
  match answer with
  | .map entries => .ok (((Assoc.get? "items" entries).getD .null).orElse (.list []))
  | _ => .error (.value .noAttribute)

/-- The records of a list of symbols. -/
def fetchSymbols (c : Client) (spec : Option Spec) : StateM Desk (Except ClientFault Value) := do
  match ← c.fetchList spec .null with
  | .error e => return .error e
  | .ok answer => return recordsOf answer

/-- The symbols of one file, or nothing if the backend does not answer with success. -/
def fetchFileSymbols (c : Client) (path : Value) :
    StateM Desk (Except ClientFault (Option Value)) := do
  match path with
  | .text file =>
    match ← c.send ("/api/file/" ++ Percent.encodeSegment file) none with
    | .error e => return .error e
    | .ok r =>
      if 200 ≤ r.status && r.status ≤ 299 then return (decodeBody file r).map some
      Desk.report .debug "backend"
        ("No symbols for " ++ file ++ " (status " ++ Text.intText r.status ++ ")")
      return .ok none
  | _ => return .error (.value .wrongKind)

end Client

end SymbolSieve
