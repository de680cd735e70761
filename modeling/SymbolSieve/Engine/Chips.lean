import SymbolSieve.Spec.Basic
import SymbolSieve.Value.Items
import SymbolSieve.Value.Shown
import SymbolSieve.Vocabulary

/-!
# What views show of the filters

Above the list of symbols, every filter that is active has a chip that says what it does; the search
text has none, since it stands in the input box. Quick filters are buttons that set some fields and
show whether these are set. The reference menu shows the bucket that fits the bounds.

## What is here

* `Spec.chips`: the chips of a specification.
* `Spec.quickActive`, `quickToggle`: the state of a quick filter, and what pressing it writes.
* `Spec.bucketLabel`: the bucket that the reference menu shows.
-/

set_option autoImplicit false

namespace SymbolSieve.Spec

/-! ## Chips -/

/-- A chip: the field that it stands for, its value and its label. -/
structure Chip where
  field : Field
  value : Value
  label : String

/-- The fields that have chips, in the order of the chips. -/
def chipFields : List Field :=
  [.kind, .state, .file, .minRefs, .maxRefs, .hasCallers, .hasCallees, .entry]

/-- A value on a chip. -/
def chipValue : Value → Except ValueFault String
  | .bool b => .ok (if b then "true" else "false")
  | v => v.shown

/-- The label of a chip. -/
def chipLabel (f : Field) (v : Value) : Except ValueFault String :=
  match f with
  | .hasCallers => .ok (if v.truthy then "has:callers" else "callers:0")
  | .hasCallees => .ok (if v.truthy then "has:callees" else "callees:0")
  | f => (chipValue v).map fun t => f.wireName ++ ":" ++ t

/-- Whether a field has a chip: it does not have its default, and for the entry field only entry
points are asked for. -/
def hasChip (s : Spec) (f : Field) : Bool :=
  !(s.get f).equal f.default && (f != .entry || match s.get f with
    | .bool true => true
    | _ => false)

/-- The chips of a specification. -/
def chips (s : Spec) : Except ValueFault (List Chip) :=
  (chipFields.filter s.hasChip).mapM fun f =>
    (chipLabel f (s.get f)).map fun label => ⟨f, s.get f, label⟩

/-! ## Quick filters -/

/-- The names that a specification knows besides its fields; none of them has a value that a quick
filter could ask for. -/
def otherNames : List String := ["copy", "to_dict", "durable_dict", "from_dict", "merge"]

/-- Whether what a specification has under a name equals a value. Besides its fields it knows
whether it is empty and how many fields are active. -/
def nameEquals (s : Spec) (name : String) (wanted : Value) : Except ValueFault Bool :=
  match Field.ofAttributeName? name with
  | some f => .ok ((s.get f).equal wanted)
  | none =>
    if name = "is_empty" then .ok ((Value.bool s.isDefault).equal wanted)
    else if name = "active_filter_count" then .ok ((Value.int s.activeCount).equal wanted)
    else if otherNames.contains name then .ok false
    else .error .noAttribute

/-- Whether every field that a quick filter sets has its value. -/
def quickActive (s : Spec) : Entries → Except ValueFault Bool
  | [] => .ok true
  | (name, wanted) :: rest => do
    if ← s.nameEquals name wanted then s.quickActive rest else return false

/-- What pressing a quick filter writes: the defaults of its fields if it is active, its own values
if it is not. -/
def quickToggle (s : Spec) (fields : Entries) : Except ValueFault Entries := do
  if ← s.quickActive fields then
    return Assoc.ofPairs (fields.map fun e =>
      (e.1, ((Field.ofAttributeName? e.1).map Field.default).getD .null))
  else return fields

/-- The fields of a quick filter that is given as a value. -/
def quickFields (quick : Value) : Except ValueFault Entries :=
  match quick with
  | .map entries => match Assoc.get? "filter" entries with
    | some fields => fields.entries
    | none => .error (.missingKey "filter")
  | _ => .error .wrongKind

/-! ## The reference menu -/

/-- The bucket with a name. -/
def bucket? (name : String) : Option Vocabulary.RefsBucket :=
  Vocabulary.refsBuckets.find? (·.name = name)

/-- What choosing a bucket writes. -/
def bucketEntries (b : Vocabulary.RefsBucket) : Entries :=
  [("min_refs", Vocabulary.bound b.min), ("max_refs", Vocabulary.bound b.max)]

/-- The label of the first bucket with the bounds of a specification. -/
def bucketLabel (s : Spec) : String :=
  match Vocabulary.refsBuckets.find? fun b =>
    s.minRefs.equal (Vocabulary.bound b.min) && s.maxRefs.equal (Vocabulary.bound b.max) with
  | some b => b.label
  | none => "custom"

end SymbolSieve.Spec
