import SymbolSieve.Engine.Chips
import SymbolSieve.Json.Disclosed
import SymbolSieve.Json.Strict
import SymbolSieve.Query.Canonical
import SymbolSieve.Query.Parse
import SymbolSieve.Selection
import SymbolSieve.Service.Forms
import SymbolSieve.Sorting

/-!
# Searching on request

Queries are parsed and records are filtered for programs that do not use the library themselves,
with the same result as on the dashboard.

## What is here

* `options`: the menus of the dashboard.
* `parsed`: a query with its specification, its canonical form and its chips.
* `recordsFound`, `filtered`: the selected records, perhaps sorted.
-/

set_option autoImplicit false

namespace SymbolSieve

/-- The specification of a form: the one that is given, or that of the query. -/
def FilterForm.spec (f : FilterForm) : Except ValueFault Spec :=
  match f.filters with
  | some spec => .ok spec
  | none => Query.parse (f.query.getD "")

namespace Service

/-- An option of a menu. -/
def menuItem (value label : String) : Value := .map [("value", .text value), ("label", .text label)]

/-- The menus of the dashboard. -/
def options : Value := .map
  [("kinds", .list (Vocabulary.kinds.map fun k => menuItem k.1 k.2)),
    ("states", .list (Vocabulary.states.map fun s => menuItem s.1 s.2)),
    ("refs", .list (Vocabulary.refsBuckets.map fun b => menuItem b.name b.label)),
    ("quickFilters", .list (Vocabulary.quickFilters.map fun q => .text q.label))]

/-- A chip with the field that it stands for, its value and its label. -/
def chipValue (c : Spec.Chip) : Value :=
  .map [("key", .text c.field.wireName), ("value", c.value), ("label", .text c.label)]

/-- A query with its specification, its canonical form and its chips. -/
def parsed (query : String) : Except ValueFault Value := do
  let spec ← Query.parse query
  let canonical ← Query.canonical spec
  let chips ← spec.chips
  return .map [("filters", .map spec.entries), ("query", .text canonical),
    ("hasActiveFilters", .bool !spec.isDefault), ("activeFilters", .list (chips.map chipValue))]

/-- The selected records, sorted if a column is given. -/
def selectSorted (spec : Spec) (sort : Option String) (direction : String) (records : Value) :
    Except ValueFault (List Value) := do
  let chosen ← Selection.select spec records
  match sort with
  | none | some "" => return chosen
  | some column => Sorting.sort (.text column) (.text direction) (.list chosen)

/-- The reply with the records that were chosen. It fails if one of them has a field that is nested
too deeply. -/
def recordsFound (spec : Spec) (total : Nat) (chosen : List Value) : Reply :=
  -- Two of the values stand around every field: the list of records and the record.
  if Json.heightLimit + 2 < Json.height (.list chosen) then .failed
  else .done (Json.strict (.map [("total", .int total), ("matched", .int chosen.length),
    ("filters", .map spec.entries), ("items", .list chosen)]))

/-- The reply to a form with records. -/
def filtered (maxRecords : Int) (f : FilterForm) : Reply :=
  if maxRecords < f.records.length then
    .refused 413 ("At most " ++ Text.intText maxRecords ++ " records per request")
  else Reply.ofExcept (do
    let spec ← f.spec
    let chosen ← selectSorted spec f.sort f.direction (.list f.records)
    return recordsFound spec f.records.length chosen)

end Service

end SymbolSieve
