import Mathlib.Algebra.Order.Field.Power
import Mathlib.Algebra.Order.Ring.Rat
import Mathlib.Order.WithBot
import Mathlib.Tactic.NormNum
import Mathlib.Tactic.Positivity
import SymbolSieve.Number.Binary64

/-!
# The order of binary floating-point numbers

Numbers are compared by bringing them to a common unit.  That is the order of the values that they
denote: fractions, and the two infinities around all of them.  Not-a-number denotes nothing, and
this is the only reason why the order is not linear.

## What is here

* `value?`: the value of a number.
* `compare?_eq_lt_iff`: a number comes before another one if its value is less.
-/

set_option autoImplicit false

namespace SymbolSieve.Binary64

/-- The value of a finite number. -/
def finiteValue (negative : Bool) (m : Nat) (e : Int) : ℚ :=
  if negative then -(m * 2 ^ e) else m * 2 ^ e

/-- The value of a number.  Not-a-number has none. -/
def value? : Binary64 → Option (WithBot (WithTop ℚ))
  | .nan => none
  | .infinite negative => some (if negative then ⊥ else ⊤)
  | .finite negative m e => some ((finiteValue negative m e : WithTop ℚ) : WithBot (WithTop ℚ))

theorem value?_eq_none_iff {x : Binary64} : x.value? = none ↔ x = .nan := by
  cases x <;> simp [value?]

/-- A finite number is so many units. -/
theorem signedUnits_mul (negative : Bool) (m : Nat) {e g : Int} (h : g ≤ e) :
    (signedUnits negative m e g : ℚ) * 2 ^ g = finiteValue negative m e := by
  obtain ⟨k, hk⟩ := Int.eq_ofNat_of_zero_le (show 0 ≤ e - g by omega)
  have hpow : (2 : ℚ) ^ e = 2 ^ k * 2 ^ g := by
    rw [← zpow_natCast, ← zpow_add₀ (by norm_num)]
    congr 1
    omega
  cases negative <;> simp [signedUnits, finiteValue, hk, hpow, mul_assoc]

theorem signedUnits_lt_iff (a b : Bool) (m n : Nat) (e f : Int) :
    signedUnits a m e (min e f) < signedUnits b n f (min e f) ↔
      finiteValue a m e < finiteValue b n f := by
  have hunit : (0 : ℚ) < 2 ^ min e f := by positivity
  rw [← signedUnits_mul a m (min_le_left e f), ← signedUnits_mul b n (min_le_right e f),
    mul_lt_mul_iff_left₀ hunit, Int.cast_lt]

/-- **A number comes before another one if its value is less.** -/
theorem compare?_eq_lt_iff {x y : Binary64} {v w : WithBot (WithTop ℚ)} (hx : x.value? = some v)
    (hy : y.value? = some w) : x.compare? y = some .lt ↔ v < w := by
  cases x with
  | nan => cases hx
  | infinite a =>
    cases y with
    | nan => cases hy
    | infinite b => cases hx; cases hy; cases a <;> cases b <;> decide
    | finite b n f => cases hx; cases hy; cases a <;> simp [compare?]
  | finite a m e =>
    cases y with
    | nan => cases hy
    | infinite b =>
      cases hx
      cases hy
      have htop := WithBot.coe_lt_coe.2 (WithTop.coe_lt_top (finiteValue a m e))
      rw [WithBot.coe_top] at htop
      cases b <;> simp [compare?, htop]
    | finite b n f =>
      cases hx
      cases hy
      rw [compare?, Option.some.injEq, WithBot.coe_lt_coe, WithTop.coe_lt_coe,
        ← signedUnits_lt_iff, Int.compare_eq_lt]

end SymbolSieve.Binary64
