import SymbolSieve.Number.Shortest

/-!
# Decimals with a number of digits

A binary number can be shown with a given number of significant digits. The decimal with so many
digits that is nearest to it is taken, and of two that are equally near the greater one.

## What is here

* `roundHalfUp`: the nearest natural number, at most half a unit away.
* `rounded`: the nearest decimal with some digits.
* `roundedText`: its written form.
-/

set_option autoImplicit false

namespace SymbolSieve.Binary64

/-- The natural number nearest to `num / den`; a half goes up. -/
def roundHalfUp (num den : Nat) : Nat := (2 * num + den) / (2 * den)

/-- The nearest natural number is at most half a unit away, and where it is half a unit away it is
above. -/
theorem roundHalfUp_bounds (num : Nat) {den : Nat} (h : 0 < den) :
    2 * den * roundHalfUp num den ≤ 2 * num + den ∧
      2 * num + den < 2 * den * (roundHalfUp num den + 1) := by
  have hpos : 0 < 2 * den := by omega
  exact ⟨Nat.mul_div_le _ _, Nat.lt_mul_div_succ _ hpos⟩

/-- The decimal with a number of digits that is nearest to `m · 2 ^ e`. One more digit may be needed
for it, which is a one before zeros. -/
def rounded (digits m : Nat) (e : Int) : Decimal :=
  let (p, q) := ratio m e
  let unit := magnitude p q - digits
  if 0 ≤ unit then ⟨roundHalfUp p (q * Nat.pow 10 unit.toNat), unit⟩
  else ⟨roundHalfUp (p * Nat.pow 10 (-unit).toNat) q, unit⟩

/-- The written form of a number with some digits. Zero has no sign. -/
def roundedText (style : DecimalStyle) (digits : Nat) : Binary64 → String
  | .nan => "NaN"
  | .infinite negative => if negative then "-Inf" else "Inf"
  | .finite negative m e =>
    if m = 0 then "0.0"
    else String.ofList
      ((if negative then ['-'] else []) ++ (rounded digits m e).layout style)

end SymbolSieve.Binary64
