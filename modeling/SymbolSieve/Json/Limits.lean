import SymbolSieve.Number.Reading

/-!
# Limits of JSON texts

An integer may not have too many digits, and lists and mappings may not be nested too deeply. The
same limits hold where texts are read and where they are written.

## What is here

* `Limits`: the limits, which there need not be; `Limits.standard`.
* `Limits.inside`: what is left of the limits inside a list or a mapping.
-/

set_option autoImplicit false

namespace SymbolSieve.Json

/-- How many digits an integer may have and how deeply lists and mappings may be nested, as far as
there are limits. -/
structure Limits where
  digits : Option Nat := none
  depth : Option Nat := none
  deriving DecidableEq, Repr

/-- How deeply lists and mappings may be nested. -/
def depthLimit : Nat := 960

namespace Limits

/-- The limits that hold for texts from outside. -/
def standard : Limits := { digits := some digitLimit, depth := some depthLimit }

/-- The limits for what is inside a list or a mapping, or nothing if there may be none. -/
def inside (l : Limits) : Option Limits :=
  match l.depth with
  | some 0 => none
  | some (depth + 1) => some { l with depth := some depth }
  | none => some l

end Limits

end SymbolSieve.Json
