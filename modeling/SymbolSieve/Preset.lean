import SymbolSieve.Clock
import SymbolSieve.Desk
import SymbolSieve.Value.Order
import SymbolSieve.Value.Shown
import SymbolSieve.Vocabulary

/-!
# Presets

A preset is a query that was saved under a name. Presets do not depend on the live filters: saving
writes the filters down as a query, and applying a preset reads its query again.

The list of presets is stored under one key. Until something is stored there, and whenever it cannot
be read, the built-in presets take its place. Trouble with the storage is reported and goes no
further; an operation fails only on a stored text that is nested too deeply, or when there is no
time for a fresh id.

## What is here

* `Preset`: an id, a name and a query; `Preset.ofValue` reads one.
* `PresetStore.load`, `save`, `append`, `add`, `remove`, `get`: the stored list.
-/

set_option autoImplicit false

namespace SymbolSieve

/-- A saved query. -/
structure Preset where
  id : String
  name : String
  query : String
  deriving DecidableEq, Repr

namespace Preset

/-- The entries of a preset, whose name and query may be of any kind. -/
def entriesOf (id : String) (name query : Value) : Entries :=
  [("id", .text id), ("name", name), ("query", query)]

/-- The entries of a preset as it is stored. -/
def entries (p : Preset) : Entries := entriesOf p.id (.text p.name) (.text p.query)

/-- Whether a preset has an id. Only a text is one. -/
def hasId (p : Preset) (id : Value) : Bool := (Value.text p.id).equal id

@[simp] theorem hasId_text (p : Preset) (id : String) : p.hasId (.text id) = (p.id == id) := by
  simp [hasId]

/-- What stands under a key that has to be there. -/
def entryOf (v : Value) (key : String) : Except ValueFault Value :=
  match v with
  | .map entries => match Assoc.get? key entries with
    | some x => .ok x
    | none => .error (.missingKey key)
  | _ => .error .wrongKind

/-- The preset that a value describes. The id and the name have to be there, in whatever form; a
query that is absent is empty. -/
def ofValue (v : Value) : Except ValueFault Preset := do
  let id ← (← entryOf v "id").shown
  let name ← (← entryOf v "name").shown
  let query ← match v with
    | .map entries => ((Assoc.get? "query" entries).getD (.text "")).shown
    | _ => throw .noAttribute
  return { id, name, query }

/-- The built-in presets. -/
def builtIn : List Preset :=
  [⟨"dead-functions", "Dead Functions", "kind:function state:dead"⟩,
    ⟨"cycle-symbols", "Cycle Symbols", "state:cycle"⟩,
    ⟨"entry-points", "Entry Points", "entry:true"⟩,
    ⟨"no-callers", "No Callers", "callers:0"⟩]

/-! ## What is wrong with a stored preset -/

/-- Why a value is no preset, in words. -/
def complaint (v : Value) (fault : ValueFault) : String :=
  match fault, v with
  | .missingKey key, _ => Text.quoted key
  | _, .text _ => "string indices must be integers, not " ++ inQuotes "str"
  | _, .list _ => "list indices must be integers or slices, not str"
  | _, _ => inQuotes v.kindName ++ " object is not subscriptable"

/-- The text of a value in which texts stand in quotes, for a message. -/
def quotedText (v : Value) : String := (v.quoted.toOption).getD ""

/-- The message for a stored value that is no preset. -/
def skipMessage (v : Value) (fault : ValueFault) : String :=
  "Skipping malformed preset " ++ quotedText v ++ ": " ++ complaint v fault

end Preset

namespace PresetStore

open Desk

/-- Whether a value is a preset, and which; what is none is reported. -/
def readOne (v : Value) : StateM Desk (Option Preset) :=
  match Preset.ofValue v with
  | .ok p => pure (some p)
  | .error fault => do
    report .warning "presets" (Preset.skipMessage v fault)
    return none

/-- The presets among some values, in order. -/
def readAll : List Value → StateM Desk (List Preset)
  | [] => pure []
  | v :: rest => do
    let p ← readOne v
    let ps ← readAll rest
    return p.toList ++ ps

/-- The presets under a key. -/
def load (h : Handle) (key : String) : Attempt (List Preset) := do
  match ← onStorage (Storage.getJson h (.text key)) with
  | .error (.value fault) => throw fault
  | .error (.storage e) =>
    report .error "presets" ("Failed to load presets: " ++ e.message)
    return Preset.builtIn
  | .ok .null => return Preset.builtIn
  | .ok (.list vs) => readAll vs
  | .ok v =>
    report .error "presets" ("Failed to load presets: expected a list, got " ++ v.kindName)
    return Preset.builtIn

/-- Stores entries of presets in place of what is there. -/
def saveEntries (h : Handle) (key : String) (list : List Entries) : Attempt Unit := do
  match ← onStorage (Storage.setJson h (.text key) (.list (list.map Value.map))) with
  | .ok () => pure ()
  | .error (.value fault) => throw fault
  | .error (.storage e) => report .error "presets" ("Failed to save presets: " ++ e.message)

/-- Stores a list of presets in place of what is there. -/
def save (h : Handle) (key : String) (ps : List Preset) : Attempt Unit :=
  saveEntries h key (ps.map Preset.entries)

/-- A fresh id for a preset: the time in milliseconds and a counter. -/
def freshId : Attempt String := do
  let us ← (← get).clock
  let ms ← Clock.millis us
  return "preset-" ++ Text.intText ms ++ "-" ++ (← drawId)

/-- A new preset at the end of the list, and its id. A name and a query of any kind are stored as
they are. -/
def append (h : Handle) (key : String) (name query : Value) : Attempt String := do
  let ps ← load h key
  let id ← freshId
  saveEntries h key (ps.map Preset.entries ++ [Preset.entriesOf id name query])
  report .debug "presets" ("Added preset " ++ id ++ " (" ++ (← name.quoted) ++ ")")
  return id

/-- The new preset at the end of the list. -/
def add (h : Handle) (key name query : String) : Attempt Preset := do
  return { id := ← append h key (.text name) (.text query), name, query }

/-- Takes every preset with an id out of the list. -/
def remove (h : Handle) (key : String) (id : Value) : Attempt Unit := do
  let ps ← load h key
  save h key (ps.filter fun p => !p.hasId id)

/-- The first preset with an id. -/
def get (h : Handle) (key : String) (id : Value) : Attempt (Option Preset) := do
  return (← load h key).find? (·.hasId id)

end PresetStore

end SymbolSieve
