import SymbolSieve.Engine.Change
import SymbolSieve.Engine.Chips
import SymbolSieve.Preset
import SymbolSieve.Query.Canonical
import SymbolSieve.Storage.Document

/-!
# Sessions

An engine holds the live filters of a view and the listeners that want to know about them. After
every change it stores the durable fields and calls its listeners, in the order of their
subscription, each with its own copy of the filters. A listener may itself subscribe and unsubscribe
listeners and change the filters; what it changes is stored and announced at once, before the
announcement that called it goes on. A listener that fails is reported and disturbs nobody.

A session is a set of engines that share a storage, together with their listeners.

## What is here

* `Behavior`: what a listener does when it is called. Changes are made by a script that gets used
  up, so every session comes to rest.
* `Engine`, `Session`: the filters with their listeners, and the state of all engines.
* `subscribe`, `unsubscribe`, `change`: the operations of an engine.
* `restore`, `applyPreset`, `savePreset`, `selectBucket`: operations that work on the storage or
  come down to a change.
-/

set_option autoImplicit false

namespace SymbolSieve

/-! ## Listeners -/

/-- What a listener can do without changing filters. -/
inductive QuietReaction where
  /-- It fails. -/
  | fail
  /-- It ends the last subscription of a listener. -/
  | unsubscribe (listener : String)
  /-- It subscribes a listener to the engine that called. -/
  | subscribe (listener : String)
  deriving DecidableEq, Repr

/-- What a listener can do. -/
inductive Reaction where
  | quiet (r : QuietReaction)
  /-- It changes the filters of the engine that called. -/
  | change (c : Change)

/-- What a listener does when it is called: the reactions of its first calls, one list for each, and
what it does on every later call. -/
structure Behavior where
  script : List (List Reaction) := []
  afterwards : List QuietReaction := []

/-- Whether a reaction changes filters. -/
def Reaction.isChange : Reaction → Bool
  | .quiet _ => false
  | .change _ => true

/-- The number of changes that a listener is going to make. -/
def Behavior.pending (b : Behavior) : Nat :=
  b.script.foldr (fun rs n => rs.countP Reaction.isChange + n) 0

/-! ## Engines -/

/-- The live filters of a view, its storage and its listeners in the order of subscription. -/
structure Engine where
  handle : Option Handle := none
  spec : Spec := {}
  listeners : List Value := []

/-- Some engines by name, with their listeners and the calls these have received. Engines and
listeners are known under values of any kind that something can be kept under. -/
structure Session where
  desk : Desk := {}
  /-- The storage of engines that are still to come. -/
  handle : Option Handle := none
  engines : Assoc Value Engine := []
  behaviors : Assoc Value Behavior := []
  /-- The engine of each listener's last subscription. -/
  subscriptions : Assoc Value Value := []
  /-- The listeners that were called, with what they received. -/
  heard : List (Value × Spec) := []

namespace Session

/-- An operation on the storage, the clock or the log. -/
def onDesk {α : Type} (action : StateM Desk α) : StateM Session α :=
  fun s => let (x, d) := action s.desk; (x, { s with desk := d })

/-- Writes a log line. -/
def report (level : LogLevel) (message : String) : StateM Session Unit :=
  onDesk (Desk.report level "filters" message)

/-- The engine with a name; a new one has the default filters and no listeners. -/
def engineOf (s : Session) (name : Value) : Engine :=
  (Assoc.get? name s.engines).getD { handle := s.handle }

/-- The engine with a name. -/
def engine (name : Value) : StateM Session Engine := do return (← get).engineOf name

/-- Puts an engine in place of the one with its name. -/
def setEngine (name : Value) (e : Engine) : StateM Session Unit :=
  modify fun s => { s with engines := Assoc.put name e s.engines }

/-- Makes sure that there is an engine with a name. From then on it keeps its storage. -/
def ensure (name : Value) : StateM Session Unit := do setEngine name (← engine name)

/-- The number of changes that all listeners together are going to make. -/
def pending (s : Session) : Nat :=
  s.behaviors.foldr (fun b n => b.2.pending + n) 0

/-! ## Subscriptions -/

/-- Subscribes a listener to an engine. A listener that is subscribed keeps its place, and one that
is known keeps its behavior. -/
def subscribe (name listener : Value) (behavior : Behavior) :
    StateM Session (Except ValueFault Unit) := do
  if !listener.isKey then return .error .wrongKind
  let e ← engine name
  unless e.listeners.contains listener do
    setEngine name { e with listeners := e.listeners ++ [listener] }
  modify fun s => { s with
    behaviors := if (Assoc.get? listener s.behaviors).isSome then s.behaviors
      else Assoc.put listener behavior s.behaviors
    subscriptions := Assoc.put listener name s.subscriptions }
  return .ok ()

/-- Takes a listener out of an engine, if it is there. -/
def drop (name listener : Value) : StateM Session Unit := do
  let e ← engine name
  setEngine name { e with listeners := e.listeners.erase listener }

/-- Ends the last subscription of a listener; it is an error if there was none. -/
def unsubscribe (listener : Value) : StateM Session (Except ValueFault Unit) := do
  if !listener.isKey then return .error .wrongKind
  match Assoc.get? listener (← get).subscriptions with
  | some name => drop name listener; return .ok ()
  | none => return .error (.missingKey (Document.messageText listener))

/-! ## Changes -/

/-- Stores the durable fields of an engine. Trouble with the storage is reported. -/
def persist (name : Value) : StateM Session (Except ValueFault Unit) := do
  let e ← engine name
  match e.handle with
  | none => return .ok ()
  | some h =>
    match ← onDesk (Document.update h "filters" (.map e.spec.durableEntries)).run with
    | .ok _ => return .ok ()
    | .error (.value fault) => return .error fault
    | .error (.storage err) =>
      report .warning ("Failed to persist filters: " ++ err.message)
      return .ok ()

/-- The reactions of a listener to its next call, which are used up if they are scripted. -/
def nextReactions (listener : Value) : StateM Session (List Reaction) := do
  match Assoc.get? listener (← get).behaviors with
  | none => return []
  | some b => match b.script with
    | [] => return b.afterwards.map .quiet
    | rs :: rest =>
      modify fun s => { s with
        behaviors := Assoc.put listener { b with script := rest } s.behaviors }
      return rs

/-- What a listener does; the result says whether it can go on. -/
def react (change : Change → StateM Session (Except ValueFault Unit)) (name : Value) :
    Reaction → StateM Session Bool
  | .quiet .fail => return false
  | .quiet (.unsubscribe listener) => return (← unsubscribe (.text listener)).toBool
  | .quiet (.subscribe listener) => return (← subscribe name (.text listener) {}).toBool
  | .change c => return (← change c).toBool

/-- What a listener does in order, up to the first thing that fails. -/
def reactAll (change : Change → StateM Session (Except ValueFault Unit)) (name : Value) :
    List Reaction → StateM Session Bool
  | [] => return true
  | r :: rest => do
    if ← react change name r then reactAll change name rest else return false

/-- Calls a listener with the filters of an engine. A failure is reported. -/
def deliver (change : Change → StateM Session (Except ValueFault Unit)) (name listener : Value) :
    StateM Session Unit := do
  let e ← engine name
  modify fun s => { s with heard := s.heard ++ [(listener, e.spec)] }
  let reactions ← nextReactions listener
  unless ← reactAll change name reactions do
    report .error ("Filter listener <listener " ++ Document.messageText listener ++ "> failed")

/-- Calls listeners in order. -/
def deliverAll (change : Change → StateM Session (Except ValueFault Unit)) (name : Value) :
    List Value → StateM Session Unit
  | [] => pure ()
  | listener :: rest => do
    deliver change name listener
    deliverAll change name rest

/-- What a change makes of the filters of an engine, before anything is stored or announced. -/
def alter (name : Value) (c : Change) : StateM Session (Except ValueFault Unit) := do
  let e ← engine name
  unless c.unknown.isEmpty do report .debug (Change.unknownMessage c.unknown)
  match c.apply e.spec with
  | .error fault => return .error fault
  | .ok spec => setEngine name { e with spec }; return .ok ()

/-- A change of the filters of an engine, stored and announced to those who are subscribed when the
announcement begins. The number bounds how deeply changes are nested. -/
def changeWithin : Nat → Value → Change → StateM Session (Except ValueFault Unit)
  | 0, _, _ => return .ok ()
  | depth + 1, name, c => do
    match ← alter name c with
    | .error fault => return .error fault
    | .ok () =>
      match ← persist name with
      | .error fault => return .error fault
      | .ok () =>
        deliverAll (changeWithin depth name) name (← engine name).listeners
        return .ok ()

/-- **A change of the filters of an engine.** Every nested change uses up one that is pending, so
their number bounds the depth. -/
def change (name : Value) (c : Change) : StateM Session (Except ValueFault Unit) := do
  changeWithin ((← get).pending + 1) name c

/-! ## Storage -/

/-- Whether a stored value is accepted for a field: it is a text, and for the kind and the state one
of the vocabulary. -/
def acceptsStored (f : Field) (v : Value) : Bool :=
  match v with
  | .text s => match f with
    | .kind => Vocabulary.kindWords.contains s
    | .state => s == "all" || Vocabulary.stateWords.contains s
    | _ => true
  | _ => false

/-- A specification with a field from stored entries, if these have an accepted value for it; the
message says what was not accepted. -/
def restoreField (stored : Entries) (s : Spec) (f : Field) : Spec × Option String :=
  match Assoc.get? f.wireName stored with
  | none | some .null => (s, none)
  | some v =>
    if acceptsStored f v then (s.set f v, none)
    else (s, some ("Ignoring invalid persisted filter " ++ f.wireName ++ "=" ++
      Preset.quotedText v))

/-- Takes stored fields over into an engine, one by one. -/
def restoreFields (name : Value) (stored : Entries) : List Field → StateM Session Unit
  | [] => pure ()
  | f :: rest => do
    let e ← engine name
    let (spec, complaint) := restoreField stored e.spec f
    setEngine name { e with spec }
    match complaint with
    | some message => report .warning message
    | none => pure ()
    restoreFields name stored rest

/-- Takes the stored fields over into an engine. Nobody is told. -/
def restore (name : Value) : StateM Session (Except ValueFault Unit) := do
  let e ← engine name
  match e.handle with
  | none => return .ok ()
  | some h =>
    match ← onDesk (Document.load h).run with
    | .error fault => return .error fault
    | .ok document =>
      match Assoc.get? "filters" document with
      | some (.map stored) => restoreFields name stored Field.durable
      | _ => pure ()
      return .ok ()

/-! ## Presets and menus -/

/-- Applies a preset; applying none at all is an error. -/
def applyPreset (name : Value) (preset : Option Preset) :
    StateM Session (Except ValueFault Unit) := do
  match preset with
  | none => return .error .noAttribute
  | some p =>
    report .debug ("Applying preset " ++ p.id ++ " (" ++ Text.quoted p.name ++ ")")
    change name (.query (.text p.query))

/-- Saves the filters of an engine as a preset, unless there is nothing to save or the name is
blank. -/
def savePreset (name : Value) (key : String) (presetName : Value) :
    StateM Session (Except ValueFault (Option Preset)) := do
  match Query.canonical (← engine name).spec with
  | .error fault => return .error fault
  | .ok query =>
    if query.isEmpty then
      report .info "No active filters to save"
      return .ok none
    if !presetName.truthy then return .ok none
    match presetName with
    | .text text =>
      let text := Text.trim text
      if text.isEmpty then return .ok none
      match (← get).handle with
      | none => return .error .noAttribute
      | some h => return (← onDesk (PresetStore.add h key text query).run).map some
    | _ => return .error (presetName.lackOf "strip")

/-- Chooses a bucket of the reference menu; an unknown one is ignored. -/
def selectBucket (name : Value) (choice : Value) : StateM Session (Except ValueFault Unit) := do
  if !choice.isKey then return .error .wrongKind
  let found := match choice with
    | .text t => Spec.bucket? t
    | _ => none
  match found with
  | some b => change name (.update (Spec.bucketEntries b))
  | none => match choice.quoted with
    | .ok t => report .debug ("Unknown refs range " ++ t); return .ok ()
    | .error fault => return .error fault

/-- Presses a quick filter. -/
def toggleQuick (name : Value) (fields : Entries) : StateM Session (Except ValueFault Unit) := do
  match (← engine name).spec.quickToggle fields with
  | .ok entries => change name (.update entries)
  | .error fault => return .error fault

end Session

end SymbolSieve
