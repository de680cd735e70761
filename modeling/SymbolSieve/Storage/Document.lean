import SymbolSieve.Desk
import SymbolSieve.Document
import SymbolSieve.Value.Order

/-!
# The stored state document

The state document lives in the storage under one key. What is absent or cannot be read is replaced
by the default document, and the trouble is reported; only a text that is nested too deeply is
beyond that. Writing may fail.

## What is here

* `Document.load`: the stored document, laid over the default one.
* `Document.update`, `updateAt`: write a value at a path of the stored document.
-/

set_option autoImplicit false

namespace SymbolSieve.Document

/-- The text of a value for a message. Whatever was read from JSON text has a text. -/
def messageText (v : Value) : String := (v.shown.toOption).getD ""

/-- The document that a stored value stands for, and whether it is of another version. -/
def ofStored (saved : Value) : Entries × Option Value :=
  match saved with
  | .map entries =>
    let version := (Assoc.get? "version" entries).getD .null
    (restore entries,
      if version.equal (.int Vocabulary.stateVersion) then none else some version)
  | _ => (default, none)

/-- The key of the stored document. -/
def key : Value := .text Vocabulary.stateKey

/-- The stored document, laid over the default one. -/
def load (h : Handle) : Attempt Entries := do
  match ← Desk.onStorage (Storage.getJson h key) with
  | .error (.value fault) => throw fault
  | .error (.storage e) =>
    Desk.report .warning "storage" ("Failed to load state: " ++ e.message)
    return default
  | .ok saved =>
    let (doc, migrated) := ofStored saved
    match migrated with
    | some version =>
      Desk.report .info "storage" ("Migrating state from version " ++ messageText version ++
        " to " ++ Text.intText Vocabulary.stateVersion)
    | none => pure ()
    return doc

/-- Writes a value at a path of the stored document, and gives the document. -/
def update (h : Handle) (path : String) (value : Value) :
    ExceptT AccessFault (StateM Desk) Entries := do
  let saved ← (load h).adapt AccessFault.value
  let doc := putAt value (keysOf path) saved
  ExceptT.mk (Desk.onStorage (Storage.setJson h key (.map doc)))
  return doc

/-- Writes a value at a path that is given as a value. The document is read before the path is
looked at, which has to be a text. -/
def updateAt (h : Handle) (path value : Value) : ExceptT AccessFault (StateM Desk) Entries := do
  match path with
  | .text path => update h path value
  | _ =>
    let _ ← (load h).adapt AccessFault.value
    throw (.value (path.lackOf "split"))

end SymbolSieve.Document
