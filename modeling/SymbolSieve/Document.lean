import SymbolSieve.Spec.Basic
import SymbolSieve.Text.Split
import SymbolSieve.Value.Items
import SymbolSieve.Vocabulary

/-!
# The state document

The dashboard keeps its state in one document, a mapping that may nest. What is stored is laid over
a default document, so that entries of a later version of the dashboard have a value in an earlier
document; and single values are written at paths of keys.

## What is here

* `overlay`, `overlayAny`: one document laid over another one, mapping by mapping.
* `default`, `restore`: the default document, and a stored document laid over it.
* `putAt`: a document with a value at a path.
-/

set_option autoImplicit false

namespace SymbolSieve.Document

/-! ## Laying documents over each other -/

mutual

/-- A document laid over another one: its entries win, except that mappings on both sides are laid
over each other. Keys of the lower document keep their places. -/
def overlay (base : Entries) : List (String × Value) → Entries
  | [] => base
  | (k, v) :: rest => overlay (Assoc.put k (overlayValue (Assoc.get? k base) v) base) rest

/-- A value laid over what there is under its key. -/
def overlayValue (below : Option Value) : Value → Value
  | .map entries => match below with
    | some (.map base) => .map (overlay base entries)
    | _ => .map entries
  | v => v

end

@[simp] theorem overlay_nil (base : Entries) : overlay base [] = base := by simp [overlay]

/-- A value laid over another one; both of them should be mappings. Laying nothing over a value
gives that value, whatever it is. -/
def overlayAny (base override : Value) : Except ValueFault Value := do
  match base, ← override.entries with
  | .map base, entries => return .map (overlay base entries)
  | _, [] => return base
  | _, (_, .map _) :: _ => throw (base.lackOf "get")
  | _, _ :: _ => throw .wrongKind

/-! ## The default document -/

/-- The document of a dashboard that has stored nothing. -/
def default : Entries :=
  [("version", .int Vocabulary.stateVersion),
    ("filters", .map Spec.unconstrained.durableEntries)]

/-- A stored document laid over the default one, in the current version. -/
def restore (saved : Entries) : Entries :=
  Assoc.put "version" (.int Vocabulary.stateVersion) (overlay default saved)

/-! ## Paths -/

/-- The keys of a path that is written with dots. -/
def keysOf (path : String) : List String := Text.split '.' path

/-- The mapping under a key, an empty one taking the place of anything else. -/
def child (key : String) (doc : Entries) : Entries :=
  match Assoc.get? key doc with
  | some (.map entries) => entries
  | _ => []

/-- A document with a value at a path; whatever is in the way becomes a mapping. -/
def putAt (value : Value) : List String → Entries → Entries
  | [], doc => doc
  | [key], doc => Assoc.put key value doc
  | key :: rest, doc => Assoc.put key (.map (putAt value rest (child key doc))) doc

/-- The value at a path. -/
def getAt? : List String → Entries → Option Value
  | [], _ => none
  | [key], doc => Assoc.get? key doc
  | key :: rest, doc => match Assoc.get? key doc with
    | some (.map entries) => getAt? rest entries
    | _ => none

end SymbolSieve.Document
