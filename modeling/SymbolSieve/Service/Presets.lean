import SymbolSieve.Preset
import SymbolSieve.Query.Canonical
import SymbolSieve.Service.Forms
import SymbolSieve.Text.Blank

/-!
# Presets on request

Presets are listed, shown, created and deleted. A preset is created from a query, or from a
specification by way of its canonical query.

## What is here

`listPresets`, `showPreset`, `createPreset` and `deletePreset`: the operations with their replies.
-/

set_option autoImplicit false

namespace SymbolSieve

/-- The query that a form gives, which is empty if the form gives none. -/
def PresetForm.queryText (f : PresetForm) : Except ValueFault String :=
  match f.query, f.filters with
  | some query, _ => .ok (Text.trim query)
  | none, some spec => Query.canonical spec
  | none, none => .ok ""

namespace Service

/-- The reply to a request for a preset that does not exist. -/
def presetNotFound : Reply := .refused 404 "Preset not found"

/-- Lists the presets. -/
def listPresets (h : Handle) : Attempt Reply := do
  let ps ← PresetStore.load h Vocabulary.presetsKey
  return .done (.list (ps.map fun p => .map p.entries))

/-- Shows the preset with an id. -/
def showPreset (h : Handle) (id : String) : Attempt Reply := do
  match ← PresetStore.get h Vocabulary.presetsKey (.text id) with
  | some p => return .done (.map p.entries)
  | none => return presetNotFound

/-- Creates a preset. -/
def createPreset (h : Handle) (f : PresetForm) : Attempt Reply := do
  let name := Text.trim f.name
  let query ← f.queryText
  if name.isEmpty then return .refused 422 "Preset name must not be blank"
  if query.isEmpty then return .refused 422 "No active filters to save"
  let p ← PresetStore.add h Vocabulary.presetsKey name query
  Desk.report .info "api.presets" ("Created preset " ++ p.id ++ " (" ++ Text.quoted name ++ ")")
  return .created (.map p.entries)

/-- Deletes the presets with an id. -/
def deletePreset (h : Handle) (id : String) : Attempt Reply := do
  match ← PresetStore.get h Vocabulary.presetsKey (.text id) with
  | none => return presetNotFound
  | some _ =>
    PresetStore.remove h Vocabulary.presetsKey (.text id)
    return .noContent

end Service

end SymbolSieve
