import SymbolSieve.Assoc
import SymbolSieve.Number.Binary64

/-!
# Values of record fields

Symbol records come from a backend that does not promise anything about their fields, filters are
stored as JSON text that anyone may have edited, and requests carry whatever a client sends. So the
values of fields are dynamic, and every operation says what it does with a value of any kind.

## What is here

* `Value`: the kinds of value. A record is itself a value: usually a `map`, perhaps an `object`
  whose attributes are its fields, perhaps no record at all.
* `Entries`: keys with values, in order.
* `ValueFault`: what can go wrong in an operation on values.
* `truthy`: whether a value counts as present; `isKey`: whether something can be kept under it.
* `field?`: a field of a record.
-/

set_option autoImplicit false

namespace SymbolSieve

/-- A dynamic value. -/
inductive Value where
  | null
  | bool (b : Bool)
  | int (n : Int)
  | float (x : Binary64)
  | text (s : String)
  | list (items : List Value)
  | map (entries : List (String × Value))
  | object (attributes : List (String × Value))
  deriving Inhabited

/-- What can go wrong in an operation on values. -/
inductive ValueFault where
  /-- An operation met a value of a kind that it does not work on. -/
  | wrongKind
  /-- A value has no part of the name that was asked for. -/
  | noAttribute
  /-- A mapping has no entry under the key. -/
  | missingKey (key : String)
  /-- A text or a list is not in the form that the operation reads. -/
  | malformed
  /-- An integer has more digits than are read or written. -/
  | tooManyDigits
  /-- An integer is too large for a floating-point number. -/
  | outOfRange
  /-- The parts of a value are nested too deeply. -/
  | tooDeep
  deriving DecidableEq, Repr

/-- Keys with values, in the order in which the keys were first written. -/
abbrev Entries := Assoc String Value

namespace Value

/-! ## Kinds -/

/-- The name of a value's kind, as messages give it. -/
def kindName : Value → String
  | null => "NoneType"
  | bool _ => "bool"
  | int _ => "int"
  | float _ => "float"
  | text _ => "str"
  | list _ => "list"
  | map _ => "dict"
  | object _ => "SimpleNamespace"

/-- Whether a value is null. -/
def isNull : Value → Bool
  | null => true
  | _ => false

/-- Whether something can be kept under a value: it is null, a number or a text. -/
def isKey : Value → Bool
  | list _ | map _ | object _ => false
  | _ => true

/-- Whether a value counts as present: null, false, zero and everything empty do not. -/
def truthy : Value → Bool
  | null => false
  | bool b => b
  | int n => n != 0
  | float x => !x.isZero
  | text s => !s.isEmpty
  | list items => !items.isEmpty
  | map entries => !entries.isEmpty
  | object _ => true

/-- A value, or another one in place of a value that does not count as present. -/
def orElse (v w : Value) : Value := if v.truthy then v else w

/-- A value that counts as present is kept. -/
theorem orElse_of_truthy {v : Value} (w : Value) (h : v.truthy = true) : v.orElse w = v := by
  simp [orElse, h]

/-! ## Fields -/

/-- The parts that every number has: itself as its real part and numerator, nothing as its
imaginary part, and one as its denominator if it is an integer. -/
def numberPart (n : Int) (name : String) : Option Value :=
  if name = "real" || name = "numerator" then some (int n)
  else if name = "imag" then some (int 0)
  else if name = "denominator" then some (int 1)
  else none

/-- What a record has under one name. A mapping has its entries, an object its attributes, and a
number its parts. -/
def part? (record : Value) (name : String) : Option Value :=
  match record with
  | map entries => Assoc.get? name entries
  | object attributes => Assoc.get? name attributes
  | int n => numberPart n name
  | bool b => numberPart (if b then 1 else 0) name
  | float x =>
    if name = "real" then some (float x)
    else if name = "imag" then some (float (Binary64.zero false))
    else none
  | _ => none

/-- Why a value that is no text cannot be used like one under a name. An object may have something
under that name, which is of no use either. -/
def lackOf (v : Value) (name : String) : ValueFault :=
  match v with
  | object attributes => if (Assoc.get? name attributes).isSome then .wrongKind else .noAttribute
  | _ => .noAttribute

/-- The field of a record under one name; null counts as absent. -/
def fieldAt? (record : Value) (name : String) : Option Value :=
  (record.part? name).filter fun v => !v.isNull

/-- The first field that a record has among some names for it. -/
def field? (record : Value) (names : List String) : Option Value :=
  names.findSome? record.fieldAt?

theorem fieldAt?_ne_null (record : Value) (name : String) : record.fieldAt? name ≠ some null := by
  simp [fieldAt?, Option.filter_eq_some_iff, isNull]

end Value

end SymbolSieve
