import SymbolSieve.Backend.Client
import SymbolSieve.Service.Search
import SymbolSieve.Value.Items

/-!
# Symbols on request

The symbols of the backend are fetched with the coarse filters of a query, and the whole query is
applied to what comes back. If the backend gives no usable answer, the reply says so.

## What is here

* `symbolsFound`: the reply to symbols that were fetched.
* `listSymbols`: the reply to a query.
-/

set_option autoImplicit false

namespace SymbolSieve.Service

/-- The reply to a query for which the backend has sent some records. -/
def symbolsFound (f : SymbolsForm) (spec : Spec) (records : Value) : Reply :=
  Reply.ofExcept (do
    let chosen ← selectSorted spec f.sort f.direction records
    let total ← records.size
    return Reply.ofValue (.map [("query", .text f.query), ("total", .int total),
      ("matched", .int chosen.length), ("items", .list chosen)]))

/-- Fetches the symbols for a query and selects among them. -/
def listSymbols (c : Client) (f : SymbolsForm) : StateM Desk Reply := do
  match Query.parse f.query with
  | .error _ => return .failed
  | .ok spec =>
    match ← c.fetchSymbols (some spec) with
    | .ok records => return symbolsFound f spec records
    | .error (.backend e) =>
      Desk.report .error "api.symbols" ("Symbol fetch failed: " ++ e.message)
      return .refused 502 e.message
    | .error _ => return .failed

end SymbolSieve.Service
