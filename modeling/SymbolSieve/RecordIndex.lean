import SymbolSieve.Record
import SymbolSieve.Value.Items

/-!
# Records by key

A view puts only the key of a record on each element that it shows, and finds the record again when
the element is used. The key is the text of one field; a record without that field goes by its
position.

## What is here

* `RecordIndex`: the records that are shown, and the position that each key stands for. Of several
  records with one key the first is found.
* `replace`: other records in place of these. If that fails midway, the records are the new ones
  and only those before the failure can be found.
* `get`, `at?`, `keys`: what views ask for.
-/

set_option autoImplicit false

namespace SymbolSieve

/-- An ordered collection of records that can be found by key. -/
structure RecordIndex where
  keyField : Value
  records : List Value := []
  byKey : List (String × Nat) := []

namespace RecordIndex

/-- The key of a record at a position; the position may be any value. -/
def keyAt (keyField record position : Value) : Except ValueFault String := do
  let v ← Record.fieldUnder keyField record
  if v.isNull then return "#" ++ (← position.shown) else v.shown

/-- The keys of records with the position of the first record that has each, in order, as far as
the keys can be made; and the fault that ended it, if any. `found` is what has been found so far. -/
def register (keyField : Value) (found : List (String × Nat)) :
    Nat → List Value → List (String × Nat) × Except ValueFault Unit
  | _, [] => (found, .ok ())
  | position, record :: rest =>
    match keyAt keyField record (.int position) with
    | .error e => (found, .error e)
    | .ok k =>
      let found := if (found.lookup k).isSome then found else found ++ [(k, position)]
      register keyField found (position + 1) rest

/-- Other records in place of these. -/
def replace (index : RecordIndex) (records : Value) : RecordIndex × Except ValueFault Unit :=
  match records.items with
  | .error e => (index, .error e)
  | .ok vs =>
    let (byKey, outcome) := register index.keyField [] 0 vs
    ({ index with records := vs, byKey := byKey }, outcome)

/-- The index of some records. -/
def ofRecords (keyField records : Value) : Except ValueFault RecordIndex :=
  if records.isNull then .ok { keyField := keyField }
  else match replace { keyField := keyField } records with
    | (index, .ok ()) => .ok index
    | (_, .error e) => .error e

/-- The keys of the records, in order. -/
def keys (index : RecordIndex) : Except ValueFault (List String) :=
  index.records.zipIdx.mapM fun r => keyAt index.keyField r.1 (.int r.2)

/-- The record that a key stands for. -/
def get (index : RecordIndex) (key : Value) : Except ValueFault (Option Value) := do
  return (index.byKey.lookup (← key.shown)).bind (index.records[·]?)

/-- The record at a position. Only integers and truth values are positions; another number is no
position even where a record would be. -/
def at? (index : RecordIndex) (position : Value) : Except ValueFault (Option Value) :=
  match position with
  | .float x =>
    let inside := x.compare? (.finite false 0 0) != some .lt && x != .nan &&
      x.compare? (.finite false index.records.length 0) == some .lt
    if inside then .error .wrongKind else .ok none
  | .int n => .ok (if n < 0 then none else index.records[n.toNat]?)
  | .bool b => .ok index.records[b.toNat]?
  | _ => .error .wrongKind

/-- The number of records. -/
def size (index : RecordIndex) : Nat := index.records.length

end RecordIndex

end SymbolSieve
