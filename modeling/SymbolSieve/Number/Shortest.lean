import SymbolSieve.Number.Binary64

/-!
# The shortest decimal of a number

A binary number is shown with the fewest decimal digits that read back as the same number, and of
those decimals the nearest one. The text is positional for decimal exponents from `-4` to a greatest
one, with at least one digit after the point, and otherwise in the form `d.ddde±xx`.

## What is here

* `shortest`: the digits and the exponent.
* `shortest_readsBack`: the decimal of a positive finite number reads back as the number, if any
  decimal that was tried does.
* `DecimalStyle`, `Decimal.layout`: how a decimal is written.
* `text`: the written form of a number.
-/

set_option autoImplicit false

namespace SymbolSieve.Binary64

/-- A decimal fraction `digits · 10 ^ exponent`. -/
structure Decimal where
  digits : Nat
  exponent : Int
  deriving DecidableEq, Repr

/-- Whether a decimal reads back as the number `m · 2 ^ e`. -/
def readsBack (m : Nat) (e : Int) (d : Decimal) : Bool :=
  ofDecimal false d.digits d.exponent == .finite false m e

/-- The decimal exponent `k` with `10 ^ (k - 1) ≤ num / den < 10 ^ k`. -/
def magnitude (num den : Nat) : Int :=
  if den ≤ num then (Nat.toDigits 10 (num / den)).length
  else 1 - ((Nat.toDigits 10 (den / num)).length : Int)

/-- The two neighbours of `m · 2 ^ e` among the multiples of `10 ^ unit`, the nearer one first, and
of two that are equally near the even one. -/
def neighbours (m : Nat) (e unit : Int) : List Decimal :=
  let (p, q) := ratio m e
  let (num, den) := if 0 ≤ unit then (p, q * Nat.pow 10 unit.toNat)
    else (p * Nat.pow 10 (-unit).toNat, q)
  let low := num / den
  let r := num % den
  let near := if 2 * r < den || (2 * r = den && low % 2 = 0) then low else low + 1
  [⟨near, unit⟩, ⟨if near = low then low + 1 else low, unit⟩]

/-- The decimal with all the digits of `m · 2 ^ e`. -/
def exactDecimal (m : Nat) (e : Int) : Decimal :=
  if 0 ≤ e then ⟨m * Nat.pow 2 e.toNat, 0⟩ else ⟨m * Nat.pow 5 (-e).toNat, e⟩

/-- The decimals that are tried for `m · 2 ^ e`: those with one digit, with two, and so on up to
seventeen, and at last the exact one. -/
def candidates (m : Nat) (e : Int) : List Decimal :=
  let (p, q) := ratio m e
  let k := magnitude p q
  (List.range 17).flatMap (fun n => neighbours m e (k - (n + 1 : Nat))) ++ [exactDecimal m e]

/-- The shortest decimal that reads back as `m · 2 ^ e`. -/
def shortest (m : Nat) (e : Int) : Decimal :=
  ((candidates m e).find? (readsBack m e)).getD (exactDecimal m e)

/-- **The shortest decimal reads back** as soon as the exact one does. -/
theorem shortest_readsBack {m : Nat} {e : Int} (h : readsBack m e (exactDecimal m e) = true) :
    readsBack m e (shortest m e) = true := by
  unfold shortest
  cases hfind : (candidates m e).find? (readsBack m e) with
  | none => exact h
  | some d => simpa using List.find?_some hfind

/-! ## Text -/

/-- Digits without the zeros at their end, and how many zeros there were. -/
def dropZeros (ds : List Char) : List Char × Nat :=
  let tail := ds.reverse.takeWhile (· == '0')
  (ds.take (ds.length - tail.length), tail.length)

/-- A decimal exponent, with its sign and at least two digits. -/
def exponentText (k : Int) : List Char :=
  let ds := Nat.toDigits 10 k.natAbs
  (if k < 0 then '-' else '+') :: List.replicate (2 - ds.length) '0' ++ ds

/-- How a decimal is written. -/
structure DecimalStyle where
  /-- The least exponent from which on the form with an exponent is used. -/
  positionalBelow : Int
  /-- Whether a point and a digit stand even before an exponent. -/
  alwaysPoint : Bool
  deriving DecidableEq, Repr

/-- Values are shown positionally below `10 ^ 16`, and `1e+16` has no point. -/
def valueStyle : DecimalStyle := ⟨16, false⟩

/-- The written form of the decimal whose digits are `ds`, the first of them with the weight
`10 ^ k`. -/
def layout (style : DecimalStyle) (ds : List Char) (k : Int) : List Char :=
  let fractionOr (fraction : List Char) := if fraction.isEmpty then ['0'] else fraction
  if k < -4 || style.positionalBelow ≤ k then
    let fraction := ds.drop 1
    ds.take 1 ++
      (if fraction.isEmpty && !style.alwaysPoint then [] else '.' :: fractionOr fraction) ++
      'e' :: exponentText k
  else if k < 0 then
    '0' :: '.' :: List.replicate (-k - 1).toNat '0' ++ ds
  else
    let whole := k.toNat + 1
    ds.take whole ++ List.replicate (whole - ds.length) '0' ++ '.' :: fractionOr (ds.drop whole)

/-- The written form of a decimal that is not zero. -/
def Decimal.layout (style : DecimalStyle) (d : Decimal) : List Char :=
  let all := Nat.toDigits 10 d.digits
  Binary64.layout style (dropZeros all).1 (d.exponent + all.length - 1)

/-- The written form of a finite number without its sign. -/
def finiteText (m : Nat) (e : Int) : List Char :=
  if m = 0 then ['0', '.', '0'] else (shortest m e).layout valueStyle

/-- The written form of a number. -/
def text : Binary64 → String
  | .nan => "nan"
  | .infinite negative => if negative then "-inf" else "inf"
  | .finite negative m e =>
    String.ofList ((if negative then ['-'] else []) ++ finiteText m e)

end SymbolSieve.Binary64
