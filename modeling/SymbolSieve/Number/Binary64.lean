import SymbolSieve.Text.Digit

/-!
# Binary floating-point numbers

The numbers of the IEEE 754 format binary64, as exact dyadic fractions. All arithmetic is done on
integers, so that every value can be computed in a proof as well as at run time.

## What is here

* `Binary64`: not-a-number, the two infinities, and `± significand · 2 ^ exponent`.
* `ofRatio`: the number nearest to a fraction, ties going to the even significand.
* `ofInt?`: the number nearest to an integer, unless the integer is too large.
* `ofDecimal`: the number nearest to a decimal fraction.
* `compare?`: the order of the numbers; not-a-number compares with nothing.
-/

set_option autoImplicit false

namespace SymbolSieve

/-- A number of the format binary64.

Every function here that makes a finite number gives a significand below `2 ^ 53` and the least
exponent that is possible with it, but not below `-1074`. -/
inductive Binary64 where
  | nan
  | infinite (negative : Bool)
  | finite (negative : Bool) (significand : Nat) (exponent : Int)
  deriving DecidableEq, Repr, Inhabited

namespace Binary64

/-- Zero, of either sign. -/
def zero (negative : Bool) : Binary64 := .finite negative 0 (-1074)

/-! ## Rounding -/

/-- The natural number nearest to `num / den`; a half goes to the even neighbour. -/
def roundHalfEven (num den : Nat) : Nat :=
  let q := num / den
  let r := num % den
  if 2 * r < den then q
  else if den < 2 * r then q + 1
  else if q % 2 = 0 then q else q + 1

/-- A fraction `num / den`, scaled by `2 ^ (-e)`, as a numerator and a denominator. -/
def scaleDown (num den : Nat) (e : Int) : Nat × Nat :=
  if 0 ≤ e then (num, den * Nat.pow 2 e.toNat) else (num * Nat.pow 2 (-e).toNat, den)

/-- The exponent of the unit to which `num / den` is rounded. -/
def unitExponent (num den : Nat) : Int :=
  let e : Int := (Nat.log2 num : Int) - (Nat.log2 den : Int) - 53
  let (n, d) := scaleDown num den e
  max (-1074) (if Nat.pow 2 53 ≤ n / d then e + 1 else e)

/-- The number nearest to `± num / den`; a tie goes to the even significand, and what is too large
becomes infinite. -/
def ofRatio (negative : Bool) (num den : Nat) : Binary64 :=
  if num = 0 then zero negative
  else
    let e := unitExponent num den
    let (n, d) := scaleDown num den e
    let m := roundHalfEven n d
    let (m, e) := if m = Nat.pow 2 53 then (Nat.pow 2 52, e + 1) else (m, e)
    if 971 < e then .infinite negative else .finite negative m e

/-- The number nearest to an integer, if the integer is in the range of the format. -/
def ofInt? (n : Int) : Option Binary64 :=
  match ofRatio (n < 0) n.natAbs 1 with
  | .infinite _ => none
  | x => some x

/-- The number nearest to `± digits · 10 ^ exponent`.

A fraction with so many digits before or after its point that it is out of range is not
computed. -/
def ofDecimal (negative : Bool) (digits : Nat) (exponent : Int) : Binary64 :=
  let size : Int := (Nat.toDigits 10 digits).length
  if digits = 0 || size + exponent < -330 then zero negative
  else if 310 < size + exponent then .infinite negative
  else if 0 ≤ exponent then ofRatio negative (digits * Nat.pow 10 exponent.toNat) 1
  else ofRatio negative digits (Nat.pow 10 (-exponent).toNat)

/-! ## Order -/

/-- Whether a number is zero. -/
def isZero : Binary64 → Bool
  | .finite _ m _ => m == 0
  | _ => false

/-- The significand with its sign, in units of `2 ^ e`, for an `e` that is at most the exponent. -/
def signedUnits (negative : Bool) (m : Nat) (exponent e : Int) : Int :=
  let units : Int := (m * Nat.pow 2 (exponent - e).toNat : Nat)
  if negative then -units else units

/-- The order of two numbers, if both are numbers. The two zeros are equal. -/
def compare? : Binary64 → Binary64 → Option Ordering
  | .nan, _ => none
  | _, .nan => none
  | .infinite a, .infinite b => some (compare b.toNat a.toNat)
  | .infinite a, .finite .. => some (if a then .lt else .gt)
  | .finite .., .infinite b => some (if b then .gt else .lt)
  | .finite a m e, .finite b n f =>
    let g := min e f
    some (compare (signedUnits a m e g) (signedUnits b n f g))

/-! ## Arithmetic -/

/-- A finite number as a numerator and a denominator. -/
def ratio (m : Nat) (e : Int) : Nat × Nat :=
  if 0 ≤ e then (m * Nat.pow 2 e.toNat, 1) else (m, Nat.pow 2 (-e).toNat)

/-- The sum of two numbers, rounded. Only two negative zeros have a negative zero as their sum. -/
def add : Binary64 → Binary64 → Binary64
  | .nan, _ => .nan
  | _, .nan => .nan
  | .infinite a, .infinite b => if a = b then .infinite a else .nan
  | .infinite a, .finite .. => .infinite a
  | .finite .., .infinite b => .infinite b
  | .finite a m e, .finite b n f =>
    let g := min e f
    let units := signedUnits a m e g + signedUnits b n f g
    let (p, q) := ratio units.natAbs g
    ofRatio (if units = 0 then a && b else units < 0) p q

/-- The product of two finite numbers, rounded. -/
def mul : Binary64 → Binary64 → Binary64
  | .finite a m e, .finite b n f =>
    let (p, q) := ratio (m * n) (e + f)
    ofRatio (a != b) p q
  | _, _ => .nan

/-- The quotient of a number and a finite one, rounded. -/
def div : Binary64 → Binary64 → Binary64
  | .finite a m e, .finite b n f =>
    if n = 0 then .nan
    else
      let (p, q) := ratio m (e - f)
      ofRatio (a != b) p (q * n)
  | .infinite a, .finite b _ _ => .infinite (a != b)
  | _, _ => .nan

/-- The integer between zero and a finite number that is nearest to the number. -/
def truncate? : Binary64 → Option Int
  | .finite negative m e =>
    let (p, q) := ratio m e
    let n : Int := (p / q : Nat)
    some (if negative then -n else n)
  | _ => none

end Binary64

end SymbolSieve
