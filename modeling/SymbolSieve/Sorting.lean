import SymbolSieve.Record
import SymbolSieve.Value.Items
import SymbolSieve.Value.Order

/-!
# Sorting records

Records are sorted by one column. The columns `refs` and `line` are numbers: a value that is none
counts as zero. Every other column is text, by code points, a missing value counting as empty text.
Sorting is stable; descending order is ascending order read backwards.

## What is here

* `Key`, `key`: what a record is sorted by.
* `sortBy`: records in order.
-/

set_option autoImplicit false

namespace SymbolSieve.Sorting

/-- What a record is sorted by. -/
inductive Key where
  | number (x : Binary64)
  | text (s : String)
  deriving DecidableEq, Repr

/-- Whether one key comes strictly before another one. -/
def Key.before : Key → Key → Bool
  | .number x, .number y => x.compare? y == some .lt
  | .text s, .text t => decide (s < t)
  | _, _ => false

/-- The names of the columns that hold numbers. -/
def numberColumns : List String := ["refs", "line"]

/-- A field value as a number. Texts are read as numbers, and what cannot be read is zero; an
integer beyond the range of floating-point numbers is an error. -/
def numberOf (v : Value) : Except ValueFault Binary64 :=
  if !v.truthy then .ok (Binary64.zero false)
  else match v with
    | .bool _ => .ok (.finite false (Nat.pow 2 52) (-52))
    | .int n => match Binary64.ofInt? n with
      | some x => .ok x
      | none => .error .outOfRange
    | .float x => .ok x
    | .text s => match Number.readFloat s with
      | .ok x => .ok x
      | .error _ => .ok (Binary64.zero false)
    | _ => .ok (Binary64.zero false)

/-- Whether a column holds numbers. -/
def isNumeric (column : Value) : Bool := numberColumns.any fun name => column.equal (.text name)

/-- The key of a record in a column. -/
def key (column record : Value) : Except ValueFault Key := do
  let v ← Record.fieldUnder column record
  if isNumeric column then return .number (← numberOf v)
  else if v.isNull then return .text ""
  else return .text (← v.shown)

/-- Things with their keys. -/
def keyed {α : Type} (record : α → Value) (column : Value) (xs : List α) :
    Except ValueFault (List (Key × α)) :=
  xs.mapM fun x => (key column (record x)).map (·, x)

/-- Things in the order of their keys; equal keys keep their order. -/
def ordered {α : Type} (kxs : List (Key × α)) : List (Key × α) :=
  kxs.mergeSort fun a b => !b.1.before a.1

/-- Things sorted by a column of their records. -/
def sortBy {α : Type} (record : α → Value) (column : Value) (descending : Bool) (xs : List α) :
    Except ValueFault (List α) := do
  let sorted := (ordered (← keyed record column xs)).map Prod.snd
  return if descending then sorted.reverse else sorted

/-- Whether a direction asks for descending order. -/
def isDescending (direction : Value) : Bool := direction.equal (.text "desc")

/-- Records sorted by a column. -/
def sort (column direction records : Value) : Except ValueFault (List Value) := do
  sortBy id column (isDescending direction) (← records.items)

/-- The positions of records sorted by a column. -/
def positions (column direction records : Value) : Except ValueFault (List Nat) := do
  let numbered := (← records.items).zipIdx
  return (← sortBy Prod.fst column (isDescending direction) numbered).map Prod.snd

end SymbolSieve.Sorting
