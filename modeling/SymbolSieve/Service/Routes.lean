import SymbolSieve.Service.Presets
import SymbolSieve.Service.Settings
import SymbolSieve.Service.Symbols
import SymbolSieve.Service.Target

/-!
# The service

The service answers requests to parse queries, to filter records, to keep presets and to find
symbols of the backend.

## What is here

* `Endpoint`, `Endpoint.ofPath?`, `Endpoint.methods`: what can be asked for, and how.
* `Service`: the storage, the backend and the limit that the service works with.
* `Service.answer`: the reply to a request.
-/

set_option autoImplicit false

namespace SymbolSieve

/-- What the service can be asked for. -/
inductive Endpoint where
  | about
  | health
  | options
  | parse
  | filter
  | presets
  | preset (id : String)
  | symbols
  deriving DecidableEq, Repr

namespace Endpoint

/-- The place of the search operations. -/
def searchPath : String := "/api/search"

/-- The place of the presets. -/
def presetsPath : String := "/api/presets"

/-- The place of the symbols. -/
def symbolsPath : String := "/api/symbols"

/-- The id in the path of a single preset. It is not empty and holds no slash. -/
def presetId? (path : String) : Option String :=
  let above := (presetsPath ++ "/").toList
  let id := path.toList.drop above.length
  if above.isPrefixOf path.toList && !id.isEmpty && !id.contains '/' then some (String.ofList id)
  else none

/-- The endpoints with a place of their own. -/
def places : List (String × Endpoint) :=
  [("/", about), ("/health", health), (searchPath ++ "/options", options),
    (searchPath ++ "/parse", parse), (searchPath ++ "/filter", filter), (presetsPath, presets),
    (symbolsPath, symbols)]

/-- The endpoint at a path. A line feed behind its place does not count. -/
def atPath? (path : String) : Option Endpoint :=
  match places.find? fun p => path = p.1 || path = p.1 ++ "\n" with
  | some p => some p.2
  | none => (presetId? path).map preset

/-- The endpoint to which a path leads, with a number of times that the request may be sent on. If
there is nothing at the path itself, the request is sent on to the path without the slashes at its
end, provided that there is something. -/
def reached? : Nat → String → Option Endpoint
  | 0, path => atPath? path
  | more + 1, path =>
    (atPath? path).or do
      let shorter := dropSlashes path
      let _ ← atPath? shorter
      if shorter = path then none else reached? more (← Target.movedPath? shorter)

/-- The endpoint to which a path leads. -/
def ofPath? (path : String) : Option Endpoint := reached? path.length path

/-- The methods that an endpoint allows. -/
def methods : Endpoint → List String
  | about | health | options | symbols => ["GET"]
  | parse | filter => ["POST"]
  | presets => ["GET", "POST"]
  | preset _ => ["GET", "DELETE"]

end Endpoint

/-- What the service works with. -/
structure Service where
  settings : ServiceSettings
  handle : Handle
  client : Client

namespace Service

/-- What the service says about itself. -/
def about (s : Service) : Value := .map
  [("name", .text s.settings.appName), ("version", .text s.settings.version),
    ("docs", .text "/docs"),
    ("endpoints", .map [("search", .text Endpoint.searchPath),
      ("presets", .text Endpoint.presetsPath), ("symbols", .text Endpoint.symbolsPath)])]

/-- Whether the storage of the service can be read. -/
def health (s : Service) : StateM Desk Reply := do
  match ← Desk.onStorage (Storage.getItem s.handle (.text Vocabulary.presetsKey)) with
  | .ok _ => return .done (.map [("status", .text "healthy"), ("storage", .text "available")])
  | .error (.storage e) => return .done (.map [("status", .text "degraded"),
      ("storage", .text "unavailable"), ("error", .text e.message)])
  | .error (.value _) => return .failed

/-- The reply that an operation gives if it can be completed. -/
def completed (action : Attempt Reply) : StateM Desk Reply :=
  return Reply.ofExcept (← action.run)

/-- The reply to a form, or the one that its fault calls for. -/
def onForm {α : Type} (form : Except Reply α) (run : α → StateM Desk Reply) : StateM Desk Reply :=
  match form with
  | .ok f => run f
  | .error reply => return reply

/-- The reply of an endpoint to a request with a method that it allows. -/
def run (s : Service) (r : ServiceRequest) : Endpoint → StateM Desk Reply
  | .about => return .done s.about
  | .health => s.health
  | .options => return .done options
  | .parse => onForm (readForm ParseForm.read r.body) fun f =>
    return Reply.ofExcept ((parsed f.query).map .done)
  | .filter => onForm (readForm FilterForm.read r.body) fun f =>
    return filtered s.settings.maxRecords f
  | .presets =>
    if r.method = "GET" then completed (listPresets s.handle)
    else onForm (readForm PresetForm.read r.body) fun f => completed (createPreset s.handle f)
  | .preset id =>
    completed (if r.method = "GET" then showPreset s.handle id else deletePreset s.handle id)
  | .symbols =>
    onForm ((SymbolsForm.read r.params).mapError Reply.ofComplaints) (listSymbols s.client)

/-- The reply to a request. -/
def answer (s : Service) (r : ServiceRequest) : StateM Desk Reply := do
  let reply ← match Endpoint.ofPath? r.path with
    | none => pure Reply.notFound
    | some e => if e.methods.contains r.method then s.run r e else pure Reply.notAllowed
  return if r.method = "HEAD" then .bare reply.status else reply

end Service

end SymbolSieve
