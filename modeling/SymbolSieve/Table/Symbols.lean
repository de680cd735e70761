import SymbolSieve.Record
import SymbolSieve.Table.Column
import SymbolSieve.Table.Csv
import SymbolSieve.Vocabulary

/-!
# Symbols as a table

Records flattened to one row each. The fields of a record are looked up under all their names, as
the filters do it.

## What is here

* `SymbolRow`, `SymbolRow.ofRecord`: the cells of a row as values.
* `SymbolTable.text`: a table with a header, as comma-separated values.
-/

set_option autoImplicit false

namespace SymbolSieve

/-- A row of a table of symbols. -/
structure SymbolRow where
  name : Value
  kind : String
  file : Value
  line : Value
  refs : Value
  dead : Bool
  inCycle : Bool

namespace SymbolRow

/-- The row of a record. -/
def ofRecord (record : Value) : Except ValueFault SymbolRow := do
  return {
    name := Record.field record ["name"]
    kind := ← Record.kind record
    file := Record.path record
    line := Record.field record ["line"]
    refs := (Record.refs record).orElse (.int 0)
    dead := Record.isDead record
    inCycle := Record.isInCycle record }

/-- A flag as it stands in a table. -/
def flag (b : Bool) : Value := .text (if b then "yes" else "no")

/-- The cells of a row, in the order of the columns. -/
def cells (r : SymbolRow) : List Value :=
  [r.name, .text r.kind, r.file, r.line, r.refs, flag r.dead, flag r.inCycle]

theorem length_cells (r : SymbolRow) : r.cells.length = Vocabulary.columns.length := rfl

end SymbolRow

namespace SymbolTable

/-- The rows of a list of records. -/
def rows (records : List Value) : Except ValueFault (List SymbolRow) :=
  records.mapM SymbolRow.ofRecord

/-- The values of a column. -/
def column (rows : List SymbolRow) (i : Nat) : List Value :=
  rows.map fun r => r.cells.getD i .null

/-- The layouts of the columns. -/
def layouts (rows : List SymbolRow) : List Column.Layout :=
  (List.range Vocabulary.columns.length).map fun i => Column.layout (column rows i)

/-- The texts of the cells of a row, with given layouts of the columns. -/
def written (layouts : List Column.Layout) (r : SymbolRow) : Except ValueFault (List String) :=
  (layouts.zip r.cells).mapM fun (l, v) => Column.cell l v

/-- The table of some rows as comma-separated values. -/
def textOf (rows : List SymbolRow) : Except ValueFault String :=
  (rows.mapM (written (layouts rows))).map fun lines => Csv.text (Vocabulary.columns :: lines)

/-- The table of some records as comma-separated values. -/
def text (records : List Value) : Except ValueFault String := rows records >>= textOf

end SymbolTable

end SymbolSieve
