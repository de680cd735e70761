import SymbolSieve.Value.Shown

/-!
# Symbol records

Records come from a backend that has named their fields differently over time, and they are used as
they come. So each accessor looks for a field under all of its names, and takes the first that has a
value.

## What is here

`field` and `fieldUnder`, and with their names `name`, `path`, `kind`, `refs`, `callers`, `callees`
and the three flags `isDead`, `isInCycle` and `isEntry`. Only the kind is turned into text; the
others are values of any kind.
-/

set_option autoImplicit false

namespace SymbolSieve.Record

/-- A field of a record, or null. -/
def field (record : Value) (names : List String) : Value := (record.field? names).getD .null

/-- The field of a record under a name that is given as a value, or null. Only a mapping can be
asked for what is under something else than a text, and nothing is there. -/
def fieldUnder (name record : Value) : Except ValueFault Value :=
  match name, record with
  | .text name, _ => .ok (field record [name])
  | _, .map _ => if name.isKey then .ok .null else .error .wrongKind
  | _, _ => .error .wrongKind

@[simp] theorem fieldUnder_text (name : String) (record : Value) :
    fieldUnder (.text name) record = .ok (field record [name]) := by
  cases record <;> rfl

/-- The name, or an empty text. -/
def name (record : Value) : Value := (field record ["name"]).orElse (.text "")

/-- The path, or an empty text. -/
def path (record : Value) : Value := (field record ["path", "file"]).orElse (.text "")

/-- The kind as text. -/
def kind (record : Value) : Except ValueFault String :=
  ((field record ["kind", "type"]).orElse (.text "")).shown

/-- The number of references, or null when the record does not report it. -/
def refs (record : Value) : Value := field record ["refs", "references"]

/-- The number of callers, or zero. -/
def callers (record : Value) : Value := (field record ["callers", "caller_count"]).orElse (.int 0)

/-- The number of callees, or zero. -/
def callees (record : Value) : Value := (field record ["callees", "callee_count"]).orElse (.int 0)

/-- Whether the symbol is flagged as dead. -/
def isDead (record : Value) : Bool := (field record ["dead"]).truthy

/-- Whether the symbol is flagged as part of a cycle. -/
def isInCycle (record : Value) : Bool :=
  (field record ["in_cycle"]).truthy || (field record ["inCycle"]).truthy

/-- Whether the symbol is flagged as an entry point. -/
def isEntry (record : Value) : Bool :=
  (field record ["entry"]).truthy || (field record ["is_entry"]).truthy

end SymbolSieve.Record
