import SymbolSieve.Text.Quoted

/-!
# Tables as comma-separated values

Each row is a line, and its fields have commas between them. A field that holds a comma, a quote or
a line break stands in quotes, and each quote in it is written twice.

## What is here

`field`, `line` and `text`: the written forms of a field, a row and a table.
-/

set_option autoImplicit false

namespace SymbolSieve.Csv

/-- Whether a field has to stand in quotes. -/
def needsQuotes (s : List Char) : Bool :=
  s.any fun c => c = ',' || c = Text.doubleQuote || c = '\n'

/-- A text in which each quote is written twice. -/
def doubled (s : List Char) : List Char :=
  s.flatMap fun c => if c = Text.doubleQuote then [c, c] else [c]

/-- The written form of a field. -/
def field (s : String) : List Char :=
  if needsQuotes s.toList then
    Text.doubleQuote :: doubled s.toList ++ [Text.doubleQuote]
  else s.toList

/-- The written form of a row, with the line break at its end. -/
def line (row : List String) : List Char := List.intercalate [','] (row.map field) ++ ['\n']

/-- The written form of a table. -/
def text (rows : List (List String)) : String := String.ofList (rows.flatMap line)

end SymbolSieve.Csv
