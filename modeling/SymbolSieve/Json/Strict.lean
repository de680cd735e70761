import SymbolSieve.Value.Basic

/-!
# Values of strict JSON

JSON itself has no infinite numbers and no not-a-number, although texts with names for them are read
and written elsewhere. Where a text has to be strict JSON, such numbers are refused, or null takes
their place.

## What is here

* `isStrict`: whether all numbers of a value are finite.
* `strict`: a value with null in place of numbers that are not.
-/

set_option autoImplicit false

namespace SymbolSieve.Json

/-- Whether a number is finite. -/
def isFinite : Binary64 → Bool
  | .finite .. => true
  | _ => false

mutual

/-- Whether all numbers of a value are finite. -/
def isStrict : Value → Bool
  | .float x => isFinite x
  | .list items => isStrictItems items
  | .map entries => isStrictEntries entries
  | _ => true

/-- Whether all numbers of some items are finite. -/
def isStrictItems : List Value → Bool
  | [] => true
  | v :: rest => isStrict v && isStrictItems rest

/-- Whether all numbers of some entries are finite. -/
def isStrictEntries : List (String × Value) → Bool
  | [] => true
  | (_, v) :: rest => isStrict v && isStrictEntries rest

end

mutual

/-- A value with null in place of numbers that are not finite. -/
def strict : Value → Value
  | .float x => if isFinite x then .float x else .null
  | .list items => .list (strictItems items)
  | .map entries => .map (strictEntries entries)
  | v => v

/-- Items with null in place of numbers that are not finite. -/
def strictItems : List Value → List Value
  | [] => []
  | v :: rest => strict v :: strictItems rest

/-- Entries with null in place of numbers that are not finite. -/
def strictEntries : List (String × Value) → List (String × Value)
  | [] => []
  | (k, v) :: rest => (k, strict v) :: strictEntries rest

end

mutual

theorem isStrict_strict : (v : Value) → isStrict (strict v) = true
  | .float x => by
    simp only [strict]
    split
    · simpa [isStrict]
    · simp [isStrict]
  | .list items => by simp [strict, isStrict, isStrictItems_strictItems items]
  | .map entries => by simp [strict, isStrict, isStrictEntries_strictEntries entries]
  | .null | .bool _ | .int _ | .text _ | .object _ => by simp [strict, isStrict]

theorem isStrictItems_strictItems : (vs : List Value) → isStrictItems (strictItems vs) = true
  | [] => by simp [strictItems, isStrictItems]
  | v :: rest => by
    simp [strictItems, isStrictItems, isStrict_strict v, isStrictItems_strictItems rest]

theorem isStrictEntries_strictEntries :
    (es : List (String × Value)) → isStrictEntries (strictEntries es) = true
  | [] => by simp [strictEntries, isStrictEntries]
  | (k, v) :: rest => by
    simp [strictEntries, isStrictEntries, isStrict_strict v, isStrictEntries_strictEntries rest]

end

end SymbolSieve.Json
