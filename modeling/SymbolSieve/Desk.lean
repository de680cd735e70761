import SymbolSieve.Backend.Wire
import SymbolSieve.Log
import SymbolSieve.Storage.Basic

/-!
# What the library works on

Everything outside the filters themselves that an operation may use or change: the storage, the
backend, the clock, the supply of fresh ids, the files that were written, and the log. Operations on
it are state transformers. One that can fail says so in its result, so the type of an operation
tells whether its caller has to expect a failure, and what was done before the failure stays done.

## What is here

* `Desk`: the storage, the backend, the clock, the ids, the files and the log.
* `Attempt`: an operation on it that may meet values that it cannot work on.
* `report`: writes a log line.
* `onStorage`: an access to the storage.
-/

set_option autoImplicit false

namespace SymbolSieve

/-- What operations work on besides the filters. -/
structure Desk where
  storage : Storage := .memory {}
  /-- Microseconds from the start of 1970, if the clock can be read. -/
  clock : Except ValueFault Int := .ok 0
  /-- How many ids have been drawn. -/
  drawn : Nat := 0
  wire : Wire := {}
  /-- The files that were written, each as the names that lead to it. -/
  files : List (List String) := []
  log : List LogLine := []

/-- An operation that may meet values that it cannot work on. -/
abbrev Attempt (α : Type) := ExceptT ValueFault (StateM Desk) α

namespace Desk

/-- Writes a log line. -/
def report (level : LogLevel) (source message : String) : StateM Desk Unit :=
  modify fun d => { d with log := d.log ++ [⟨level, source, message⟩] }

/-- An access to the storage. -/
def onStorage {α : Type} (access : Storage → Storage.Result α) :
    StateM Desk (Except AccessFault α) :=
  fun d => let (r, s) := access d.storage; (r, { d with storage := s })

/-- A fresh id: eight hexadecimal digits that count the ids. -/
def drawId : StateM Desk String :=
  fun d => (String.ofList (Text.hexText 8 (d.drawn + 1)), { d with drawn := d.drawn + 1 })

end Desk

end SymbolSieve
