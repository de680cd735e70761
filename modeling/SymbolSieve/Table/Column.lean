import SymbolSieve.Number.Words
import SymbolSieve.Value.Shown

/-!
# Columns of a table

The cells of a column are written in one way for the whole column. A column of integers is written
as it is, but as soon as a number is missing or has a fraction, every number of the column is a
floating-point number. A column in which numbers are mixed with anything else, or in which the
integers do not all fit into words of 64 bits of one kind, is written value by value. A missing
value is always an empty cell.

## What is here

* `Layout`, `layout`: how the cells of a column are written.
* `cell`: the text of a cell.
-/

set_option autoImplicit false

namespace SymbolSieve.Column

/-- How the cells of a column are written. -/
inductive Layout where
  /-- Each value by itself. -/
  | each
  /-- All values as floating-point numbers. -/
  | floats
  deriving DecidableEq, Repr

/-- What has been seen of a column. -/
structure Seen where
  missing : Bool := false
  fraction : Bool := false
  truth : Bool := false
  /-- An integer below zero. -/
  negative : Bool := false
  /-- An integer that fits into a word only without a sign. -/
  large : Bool := false
  deriving DecidableEq, Repr

/-- What has been seen with one more integer, if all of them fit into words of one kind. -/
def Seen.withInt (seen : Seen) (n : Int) : Option Seen :=
  if !Number.fitsSigned n && !Number.fitsUnsigned n then none
  else
    let seen := { seen with
      negative := seen.negative || n < 0
      large := seen.large || !Number.fitsSigned n }
    if seen.negative && seen.large then none else some seen

/-- The layout of a column, of which something has been seen. -/
def layoutFrom (seen : Seen) : List Value → Layout
  | [] => if !seen.truth && (seen.missing || seen.fraction) then .floats else .each
  | v :: rest => match v with
    | .null => layoutFrom { seen with missing := true } rest
    | .bool _ => layoutFrom { seen with truth := true } rest
    | .float _ => layoutFrom { seen with fraction := true } rest
    | .int n => match seen.withInt n with
      | some seen => layoutFrom seen rest
      | none => .each
    | _ => .each

/-- The layout of a column. -/
def layout (vs : List Value) : Layout := layoutFrom {} vs

/-- Whether a value is missing: null, and a number that is none. -/
def isMissing : Value → Bool
  | .null => true
  | .float .nan => true
  | _ => false

/-- A number as a floating-point number. -/
def float? : Value → Option Binary64
  | .float x => some x
  | .int n => Binary64.ofInt? n
  | _ => none

/-- The text of a cell. -/
def cell (l : Layout) (v : Value) : Except ValueFault String :=
  if isMissing v then .ok ""
  else match l with
    | .each => v.shown
    | .floats => match float? v with
      | some x => .ok x.text
      | none => v.shown

end SymbolSieve.Column
