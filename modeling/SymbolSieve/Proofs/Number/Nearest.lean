import Mathlib.Data.Int.Log
import Mathlib.Data.Nat.Log
import Mathlib.Data.Rat.Floor
import Mathlib.Algebra.Order.Field.Power
import Mathlib.Tactic.NormNum
import Mathlib.Tactic.Positivity
import Mathlib.Tactic.Ring
import SymbolSieve.Number.Shortest
import SymbolSieve.Proofs.Number.Decimal

/-!
# Rounding to binary floating-point numbers

A number is rounded from a fraction, or from a decimal.  The result depends only on the value that
the fraction or the decimal denotes, and a value that is in the format is not changed.  So every
number of the format is read back from the text in which it is shown, whatever digits were chosen
for it.

## What is here

* `InFormat`: the numbers of the format; `inFormat_ofDecimal` says that rounding gives nothing else.
* `unitExponent_eq`: the unit to which a value is rounded, by the logarithm of the value.
* `ofRatio_eq_of_value_eq`, `ofDecimal_eq_of_value_eq`: rounding depends on the value alone.
* `shortest_readsBack_of_inFormat`: the decimal by which a number is shown reads back as the number.
-/

set_option autoImplicit false

namespace SymbolSieve.Binary64

/-! ## The format -/

/-- The numbers of the format: a significand of at most 53 digits with the least exponent that is
possible for it. -/
def InFormat : Binary64 → Prop
  | .nan | .infinite _ => True
  | .finite _ m e => m < 2 ^ 53 ∧ -1074 ≤ e ∧ e ≤ 971 ∧ (2 ^ 52 ≤ m ∨ e = -1074)

theorem inFormat_zero (negative : Bool) : InFormat (zero negative) := by
  refine ⟨by norm_num, by norm_num, by norm_num, .inr rfl⟩

/-! ## Scaled fractions -/

theorem scaleDown_den_pos (num : Nat) {den : Nat} (h : 0 < den) (e : Int) :
    0 < (scaleDown num den e).2 := by
  rw [scaleDown]
  split
  · exact Nat.mul_pos h (Nat.pow_pos (by decide))
  · exact h

/-- A fraction is scaled to so many units. -/
theorem scaleDown_value (num den : Nat) (e : Int) :
    ((scaleDown num den e).1 : ℚ) / (scaleDown num den e).2 = (num : ℚ) / den / 2 ^ e := by
  rw [scaleDown]
  split
  next he =>
    obtain ⟨k, rfl⟩ := Int.eq_ofNat_of_zero_le he
    simp [Nat.pow_eq, div_div]
  next he =>
    obtain ⟨k, hk⟩ := Int.eq_ofNat_of_zero_le (show 0 ≤ -e by omega)
    obtain rfl : e = -(k : Int) := by omega
    simp [Nat.pow_eq, div_eq_mul_inv, mul_right_comm]

theorem scaleDown_mul (num den : Nat) {c : Nat} (e : Int) :
    scaleDown (num * c) (den * c) e =
      ((scaleDown num den e).1 * c, (scaleDown num den e).2 * c) := by
  unfold scaleDown
  split
  · simp only [Prod.mk.injEq, true_and]
    exact Nat.mul_right_comm _ _ _
  · simp only [Prod.mk.injEq, and_true]
    exact Nat.mul_right_comm _ _ _

/-! ## The unit -/

theorem natCast_div_pos {num den : Nat} (hnum : 0 < num) (hden : 0 < den) : (0 : ℚ) < num / den :=
  div_pos (Nat.cast_pos.2 hnum) (Nat.cast_pos.2 hden)

/-- The binary logarithm of a fraction is that of its numerator less that of its denominator, or one
below. -/
theorem log_div_bounds {num den : Nat} (hnum : 0 < num) (hden : 0 < den) :
    (Nat.log2 num : Int) - Nat.log2 den - 1 ≤ Int.log 2 ((num : ℚ) / den) ∧
      Int.log 2 ((num : ℚ) / den) ≤ (Nat.log2 num : Int) - Nat.log2 den := by
  have hpos := natCast_div_pos hnum hden
  have hdenq : (0 : ℚ) < den := Nat.cast_pos.2 hden
  have hnumlow : ((2 : ℚ) ^ (Nat.log2 num : Int)) ≤ num := by
    exact_mod_cast Nat.log2_self_le (by omega)
  have hnumhigh : (num : ℚ) < 2 ^ ((Nat.log2 num : Int) + 1) := by
    exact_mod_cast Nat.lt_log2_self
  have hdenlow : ((2 : ℚ) ^ (Nat.log2 den : Int)) ≤ den := by
    exact_mod_cast Nat.log2_self_le (by omega)
  have hdenhigh : (den : ℚ) < 2 ^ ((Nat.log2 den : Int) + 1) := by
    exact_mod_cast Nat.lt_log2_self
  constructor
  · rw [← Int.zpow_le_iff_le_log (by norm_num) hpos, le_div_iff₀ hdenq]
    calc ((2 : Nat) : ℚ) ^ ((Nat.log2 num : Int) - Nat.log2 den - 1) * den
        ≤ 2 ^ ((Nat.log2 num : Int) - Nat.log2 den - 1) * 2 ^ ((Nat.log2 den : Int) + 1) := by
          push_cast
          gcongr
      _ = 2 ^ (Nat.log2 num : Int) := by
          rw [← zpow_add₀ (by norm_num)]
          congr 1
          omega
      _ ≤ num := hnumlow
  · rw [← Int.lt_add_one_iff, ← Int.lt_zpow_iff_log_lt (by norm_num) hpos, div_lt_iff₀ hdenq]
    calc (num : ℚ) < 2 ^ ((Nat.log2 num : Int) + 1) := hnumhigh
      _ = 2 ^ ((Nat.log2 num : Int) - Nat.log2 den + 1) * 2 ^ (Nat.log2 den : Int) := by
          rw [← zpow_add₀ (by norm_num)]
          congr 1
          omega
      _ ≤ ((2 : Nat) : ℚ) ^ ((Nat.log2 num : Int) - Nat.log2 den + 1) * den := by
          push_cast
          gcongr

/-- **The unit to which a fraction is rounded** gives its significand 53 digits, unless the unit
would be too small. -/
theorem unitExponent_eq {num den : Nat} (hnum : 0 < num) (hden : 0 < den) :
    unitExponent num den = max (-1074) (Int.log 2 ((num : ℚ) / den) - 52) := by
  obtain ⟨hlow, hhigh⟩ := log_div_bounds hnum hden
  have hpos := natCast_div_pos hnum hden
  have htest : ∀ e : Int, Nat.pow 2 53 ≤ (scaleDown num den e).1 / (scaleDown num den e).2 ↔
      53 + e ≤ Int.log 2 ((num : ℚ) / den) := by
    intro e
    have hd := scaleDown_den_pos num hden e
    have hdq : (0 : ℚ) < (scaleDown num den e).2 := Nat.cast_pos.2 hd
    rw [Nat.le_div_iff_mul_le hd, ← Int.zpow_le_iff_le_log (by norm_num) hpos, Nat.cast_ofNat,
      zpow_add₀ (by norm_num), ← le_div_iff₀ (by positivity), ← scaleDown_value,
      le_div_iff₀ hdq, Nat.pow_eq]
    exact_mod_cast Iff.rfl
  have htest := htest ((Nat.log2 num : Int) - Nat.log2 den - 53)
  simp only [unitExponent]
  split
  next h => have := htest.1 h; omega
  next h => have := mt htest.2 h; omega

/-! ## The nearest natural number -/

theorem roundHalfEven_mul (num den : Nat) {c : Nat} (hc : 0 < c) :
    roundHalfEven (num * c) (den * c) = roundHalfEven num den := by
  have hlt : ∀ a b : Nat, a * c < b * c ↔ a < b := fun a b => Nat.mul_lt_mul_right hc
  have hassoc : 2 * (num % den * c) = 2 * (num % den) * c := (Nat.mul_assoc _ _ _).symm
  simp only [roundHalfEven, Nat.mul_div_mul_right _ _ hc, Nat.mul_mod_mul_right, hassoc, hlt]

theorem roundHalfEven_self_mul (m : Nat) {den : Nat} (h : 0 < den) :
    roundHalfEven (m * den) den = m := by
  simp [roundHalfEven, Nat.mul_div_cancel _ h, h]

theorem roundHalfEven_bounds (num den : Nat) :
    num / den ≤ roundHalfEven num den ∧ roundHalfEven num den ≤ num / den + 1 := by
  simp only [roundHalfEven]
  split
  · omega
  · split
    · omega
    · split <;> omega

/-! ## The nearest number -/

/-- Fractions of one value are rounded alike. -/
theorem ofRatio_mul (negative : Bool) (num : Nat) {den c : Nat} (hden : 0 < den) (hc : 0 < c) :
    ofRatio negative (num * c) (den * c) = ofRatio negative num den := by
  rcases Nat.eq_zero_or_pos num with rfl | hnum
  · simp [ofRatio]
  · have hnum' : num * c ≠ 0 := by positivity
    have hvalue : ((num * c : Nat) : ℚ) / (den * c : Nat) = (num : ℚ) / den := by
      push_cast
      exact mul_div_mul_right _ _ (Nat.cast_ne_zero.2 (by omega))
    have hunit : unitExponent (num * c) (den * c) = unitExponent num den := by
      rw [unitExponent_eq (by positivity) (by positivity), hvalue, unitExponent_eq hnum hden]
    simp only [ofRatio, hunit, scaleDown_mul, roundHalfEven_mul _ _ hc, if_neg hnum',
      if_neg hnum.ne']

/-- **Rounding a fraction depends on its value alone.** -/
theorem ofRatio_eq_of_value_eq (negative : Bool) {num den num' den' : Nat} (hden : 0 < den)
    (hden' : 0 < den') (h : (num : ℚ) / den = (num' : ℚ) / den') :
    ofRatio negative num den = ofRatio negative num' den' := by
  have hcross : num * den' = num' * den := by
    rw [div_eq_div_iff (by positivity) (by positivity)] at h
    exact_mod_cast h
  rw [← ofRatio_mul negative num hden hden', hcross, Nat.mul_comm den,
    ofRatio_mul negative num' hden' hden]

/-- The scaled value of a fraction has at most 53 binary digits, and it has all of them unless the
unit is the smallest. -/
theorem scaledValue_bounds {num den : Nat} (hnum : 0 < num) (hden : 0 < den) :
    (num : ℚ) / den / 2 ^ unitExponent num den < 2 ^ 53 ∧
      (unitExponent num den = -1074 ∨ 2 ^ 52 ≤ (num : ℚ) / den / 2 ^ unitExponent num den) := by
  have hpos := natCast_div_pos hnum hden
  have hunit := unitExponent_eq hnum hden
  generalize unitExponent num den = e at hunit
  constructor
  · rw [div_lt_iff₀ (by positivity), ← zpow_natCast, ← zpow_add₀ (by norm_num)]
    refine (Int.lt_zpow_iff_log_lt (b := 2) (by norm_num) hpos).2 ?_
    push_cast
    omega
  · rw [or_iff_not_imp_left]
    intro he
    rw [le_div_iff₀ (by positivity), ← zpow_natCast, ← zpow_add₀ (by norm_num)]
    refine (Int.zpow_le_iff_le_log (b := 2) (by norm_num) hpos).2 ?_
    push_cast
    omega

theorem inFormat_ofRatio (negative : Bool) (num : Nat) {den : Nat} (hden : 0 < den) :
    InFormat (ofRatio negative num den) := by
  rcases Nat.eq_zero_or_pos num with rfl | hnum
  · exact inFormat_zero negative
  · obtain ⟨hhigh, hlow⟩ := scaledValue_bounds hnum hden
    have hunit : -1074 ≤ unitExponent num den := by
      rw [unitExponent_eq hnum hden]
      exact le_max_left _ _
    simp only [ofRatio, if_neg (show num ≠ 0 by omega)]
    generalize unitExponent num den = e at hhigh hlow hunit
    rw [← scaleDown_value] at hhigh hlow
    have hd := scaleDown_den_pos num hden e
    generalize scaleDown num den e = nd at hhigh hlow hd
    obtain ⟨n, d⟩ := nd
    have hdq : (0 : ℚ) < d := Nat.cast_pos.2 hd
    have hhigh' : n / d < 2 ^ 53 := by
      rw [Nat.div_lt_iff_lt_mul hd]
      rw [div_lt_iff₀ hdq] at hhigh
      exact_mod_cast hhigh
    have hlow' : e = -1074 ∨ 2 ^ 52 ≤ n / d := by
      refine hlow.imp_right fun h => ?_
      rw [Nat.le_div_iff_mul_le hd]
      rw [le_div_iff₀ hdq] at h
      exact_mod_cast h
    obtain ⟨hle, hge⟩ := roundHalfEven_bounds n d
    simp only [Nat.pow_eq]
    split
    next =>
      -- A carry out of the 53 digits goes into the exponent.
      split
      · trivial
      · exact ⟨by norm_num, by dsimp only; omega, by dsimp only at *; omega, .inl le_rfl⟩
    next hcarry =>
      split
      · trivial
      · refine ⟨by dsimp only; omega, hunit, by dsimp only at *; omega, ?_⟩
        rcases hlow' with h | h
        · exact .inr h
        · exact .inl (h.trans hle)

/-- **A value that is in the format is not changed.** -/
theorem ofRatio_exact {negative : Bool} {m num den : Nat} {e : Int}
    (hformat : InFormat (.finite negative m e)) (hm : 0 < m) (hden : 0 < den)
    (h : (num : ℚ) / den = m * 2 ^ e) : ofRatio negative num den = .finite negative m e := by
  obtain ⟨hm53, hlow, hhigh, hfull⟩ := hformat
  have hmq : (0 : ℚ) < m := Nat.cast_pos.2 hm
  have hpos : (0 : ℚ) < num / den := by
    rw [h]
    positivity
  have hnum : 0 < num := by
    refine Nat.pos_of_ne_zero ?_
    rintro rfl
    simp at hpos
  have hunit : unitExponent num den = e := by
    have hlogHigh : Int.log 2 ((num : ℚ) / den) < 53 + e := by
      rw [← Int.lt_zpow_iff_log_lt (by norm_num) hpos, h, Nat.cast_ofNat, zpow_add₀ (by norm_num)]
      gcongr
      exact_mod_cast hm53
    have hlogLow : 2 ^ 52 ≤ m → 52 + e ≤ Int.log 2 ((num : ℚ) / den) := by
      intro h52
      rw [← Int.zpow_le_iff_le_log (by norm_num) hpos, h, Nat.cast_ofNat, zpow_add₀ (by norm_num)]
      gcongr
      exact_mod_cast h52
    rw [unitExponent_eq hnum hden]
    rcases hfull with h52 | rfl
    · have := hlogLow h52
      omega
    · omega
  have hd := scaleDown_den_pos num hden e
  have hscaled : (scaleDown num den e).1 = m * (scaleDown num den e).2 := by
    have hvalue := scaleDown_value num den e
    rw [h, mul_div_cancel_right₀ _ (by positivity), div_eq_iff (by positivity)] at hvalue
    exact_mod_cast hvalue
  have hround : roundHalfEven (scaleDown num den e).1 (scaleDown num den e).2 = m := by
    rw [hscaled, roundHalfEven_self_mul m hd]
  simp only [ofRatio, if_neg hnum.ne', hunit, hround, Nat.pow_eq, if_neg hm53.ne]
  rw [if_neg (by omega)]

/-! ## Decimals -/

/-- The fraction that a decimal stands for. -/
def decimalRatio (digits : Nat) (exponent : Int) : Nat × Nat :=
  if 0 ≤ exponent then (digits * Nat.pow 10 exponent.toNat, 1)
  else (digits, Nat.pow 10 (-exponent).toNat)

theorem decimalRatio_den_pos (digits : Nat) (exponent : Int) :
    0 < (decimalRatio digits exponent).2 := by
  rw [decimalRatio]
  split
  · exact Nat.one_pos
  · exact Nat.pow_pos (by decide)

theorem decimalRatio_value (digits : Nat) (exponent : Int) :
    ((decimalRatio digits exponent).1 : ℚ) / (decimalRatio digits exponent).2 =
      digits * 10 ^ exponent := by
  rw [decimalRatio]
  split
  next h =>
    obtain ⟨k, rfl⟩ := Int.eq_ofNat_of_zero_le h
    simp [Nat.pow_eq]
  next h =>
    obtain ⟨k, hk⟩ := Int.eq_ofNat_of_zero_le (show 0 ≤ -exponent by omega)
    obtain rfl : exponent = -(k : Int) := by omega
    simp [Nat.pow_eq, div_eq_mul_inv]

/-- The place of the first digit of a decimal, by the logarithm of its value. -/
theorem size_eq {digits : Nat} (h : 0 < digits) (exponent : Int) :
    ((Nat.toDigits 10 digits).length : Int) + exponent =
      Int.log 10 ((digits : ℚ) * 10 ^ exponent) + 1 := by
  have hq : (0 : ℚ) < digits := Nat.cast_pos.2 h
  have hlog : Int.log 10 ((digits : ℚ) * 10 ^ exponent) =
      (Nat.log 10 digits : Int) + exponent := by
    refine le_antisymm ?_ ?_
    · rw [← Int.lt_add_one_iff, ← Int.lt_zpow_iff_log_lt (by norm_num) (by positivity),
        add_right_comm, Nat.cast_ofNat, zpow_add₀ (by norm_num)]
      gcongr
      exact_mod_cast Nat.lt_pow_succ_log_self (by norm_num) digits
    · rw [← Int.zpow_le_iff_le_log (by norm_num) (by positivity), Nat.cast_ofNat,
        zpow_add₀ (by norm_num)]
      gcongr
      exact_mod_cast Nat.pow_log_le_self 10 (by omega)
  have hlength : (Nat.toDigits 10 digits).length = Nat.log 10 digits + 1 := by
    refine le_antisymm ?_ ?_
    · exact (Nat.length_toDigits_le_iff (by norm_num) (Nat.succ_pos _)).2
        (Nat.lt_pow_succ_log_self (by norm_num) digits)
    · rcases Nat.eq_zero_or_pos (Nat.log 10 digits) with hzero | hpos
      · rw [hzero]
        exact Nat.length_toDigits_pos
      · refine Nat.lt_of_not_le fun hle => ?_
        have hlt := (Nat.length_toDigits_le_iff (by norm_num) hpos).1 hle
        exact absurd (Nat.pow_log_le_self 10 h.ne') (Nat.not_le_of_lt hlt)
  omega

theorem ofDecimal_eq (negative : Bool) {digits : Nat} (h : 0 < digits) (exponent : Int) :
    ofDecimal negative digits exponent =
      if Int.log 10 ((digits : ℚ) * 10 ^ exponent) < -331 then zero negative
      else if 309 < Int.log 10 ((digits : ℚ) * 10 ^ exponent) then .infinite negative
      else ofRatio negative (decimalRatio digits exponent).1 (decimalRatio digits exponent).2 := by
  have hsize := size_eq h exponent
  simp only [ofDecimal, decimalRatio, Bool.or_eq_true, decide_eq_true_eq, h.ne', false_or]
  generalize Int.log 10 ((digits : ℚ) * 10 ^ exponent) = k at hsize
  have hlow : ((Nat.toDigits 10 digits).length : Int) + exponent < -330 ↔ k < -331 := by omega
  have hhigh : 310 < ((Nat.toDigits 10 digits).length : Int) + exponent ↔ 309 < k := by omega
  simp only [hlow, hhigh]
  split
  · rfl
  · split
    · rfl
    · split <;> rfl

/-- **Rounding a decimal depends on its value alone.** -/
theorem ofDecimal_eq_of_value_eq (negative : Bool) {digits digits' : Nat} {exponent exponent' : Int}
    (hdigits : 0 < digits) (hdigits' : 0 < digits')
    (h : (digits : ℚ) * 10 ^ exponent = digits' * 10 ^ exponent') :
    ofDecimal negative digits exponent = ofDecimal negative digits' exponent' := by
  have hratio := ofRatio_eq_of_value_eq negative (decimalRatio_den_pos digits exponent)
    (decimalRatio_den_pos digits' exponent') (by rw [decimalRatio_value, decimalRatio_value, h])
  rw [ofDecimal_eq negative hdigits, ofDecimal_eq negative hdigits', h, hratio]

theorem inFormat_ofDecimal (negative : Bool) (digits : Nat) (exponent : Int) :
    InFormat (ofDecimal negative digits exponent) := by
  rcases Nat.eq_zero_or_pos digits with rfl | h
  · exact inFormat_zero negative
  · rw [ofDecimal_eq negative h]
    split
    · exact inFormat_zero negative
    · split
      · trivial
      · exact inFormat_ofRatio negative _ (decimalRatio_den_pos digits exponent)

/-- The numbers of the format are between the bounds beyond which decimals are not computed. -/
theorem log_bounds_of_inFormat {negative : Bool} {m : Nat} {e : Int}
    (hformat : InFormat (.finite negative m e)) (hm : 0 < m) :
    -331 ≤ Int.log 10 ((m : ℚ) * 2 ^ e) ∧ Int.log 10 ((m : ℚ) * 2 ^ e) ≤ 309 := by
  obtain ⟨hm53, hlow, hhigh, -⟩ := hformat
  have hmq : (1 : ℚ) ≤ m := by exact_mod_cast hm
  have hpos : (0 : ℚ) < (m : ℚ) * 2 ^ e := by positivity
  constructor
  · rw [← Int.zpow_le_iff_le_log (by norm_num) hpos]
    calc ((10 : Nat) : ℚ) ^ (-331 : Int) ≤ 2 ^ (-1074 : Int) := by
          rw [zpow_neg, zpow_neg]
          gcongr
          exact_mod_cast (show 2 ^ 1074 ≤ 10 ^ 331 by decide +kernel)
      _ = 1 * 2 ^ (-1074 : Int) := (one_mul _).symm
      _ ≤ m * 2 ^ e := by
          gcongr
          norm_num
  · rw [← Int.lt_add_one_iff, ← Int.lt_zpow_iff_log_lt (by norm_num) hpos]
    calc (m : ℚ) * 2 ^ e ≤ 2 ^ (53 : Int) * 2 ^ (971 : Int) := by
          gcongr
          · exact_mod_cast hm53.le
          · norm_num
      _ = (2 ^ 1024 : Nat) := by
          rw [← zpow_add₀ (by norm_num), Nat.cast_pow, Nat.cast_ofNat]
          exact zpow_natCast 2 1024
      _ < (10 ^ 310 : Nat) := Nat.cast_lt.2 (by decide +kernel)
      _ = ((10 : Nat) : ℚ) ^ (309 + 1 : Int) :=
          (Nat.cast_pow 10 310).trans (zpow_natCast _ 310).symm

theorem ofDecimal_exact {negative : Bool} {m digits : Nat} {e exponent : Int}
    (hformat : InFormat (.finite negative m e)) (hm : 0 < m) (hdigits : 0 < digits)
    (h : (digits : ℚ) * 10 ^ exponent = m * 2 ^ e) :
    ofDecimal negative digits exponent = .finite negative m e := by
  obtain ⟨hlow, hhigh⟩ := log_bounds_of_inFormat hformat hm
  rw [ofDecimal_eq negative hdigits, h, if_neg (by omega), if_neg (by omega)]
  refine ofRatio_exact hformat hm (decimalRatio_den_pos digits exponent) ?_
  rw [decimalRatio_value, h]

/-! ## Signs -/

/-- A number with another sign. -/
def withSign (negative : Bool) : Binary64 → Binary64
  | .nan => .nan
  | .infinite _ => .infinite negative
  | .finite _ m e => .finite negative m e

theorem ofRatio_withSign (negative : Bool) (num den : Nat) :
    ofRatio negative num den = withSign negative (ofRatio false num den) := by
  simp only [ofRatio]
  split
  · rfl
  · split <;> split <;> rfl

theorem ofDecimal_withSign (negative : Bool) (digits : Nat) (exponent : Int) :
    ofDecimal negative digits exponent = withSign negative (ofDecimal false digits exponent) := by
  rcases Nat.eq_zero_or_pos digits with rfl | h
  · rfl
  · rw [ofDecimal_eq negative h, ofDecimal_eq false h, ofRatio_withSign]
    split
    · rfl
    · split <;> rfl

/-! ## Decimals that are read back -/

theorem exactDecimal_value (m : Nat) (e : Int) :
    ((exactDecimal m e).digits : ℚ) * 10 ^ (exactDecimal m e).exponent = m * 2 ^ e := by
  rw [exactDecimal]
  split
  next h =>
    obtain ⟨k, rfl⟩ := Int.eq_ofNat_of_zero_le h
    simp [Nat.pow_eq]
  next h =>
    obtain ⟨k, hk⟩ := Int.eq_ofNat_of_zero_le (show 0 ≤ -e by omega)
    obtain rfl : e = -(k : Int) := by omega
    have hten : (10 : ℚ) = 5 * 2 := by norm_num
    simp only [neg_neg, Int.toNat_natCast, Nat.pow_eq, Nat.cast_mul, Nat.cast_pow, Nat.cast_ofNat,
      zpow_neg, zpow_natCast, hten, mul_pow, mul_inv]
    field_simp

theorem exactDecimal_digits_pos {m : Nat} (e : Int) (hm : 0 < m) :
    0 < (exactDecimal m e).digits := by
  rw [exactDecimal]
  split
  · exact Nat.mul_pos hm (Nat.pow_pos (by decide))
  · exact Nat.mul_pos hm (Nat.pow_pos (by decide))

/-- **The decimal by which a number is shown reads back as the number.** -/
theorem shortest_readsBack_of_inFormat {negative : Bool} {m : Nat} {e : Int}
    (hformat : InFormat (.finite negative m e)) (hm : 0 < m) :
    ofDecimal negative (shortest m e).digits (shortest m e).exponent = .finite negative m e := by
  have hexact : readsBack m e (exactDecimal m e) = true := by
    rw [readsBack, beq_iff_eq]
    exact ofDecimal_exact hformat hm (exactDecimal_digits_pos e hm) (exactDecimal_value m e)
  have hshortest := shortest_readsBack hexact
  rw [readsBack, beq_iff_eq] at hshortest
  rw [ofDecimal_withSign, hshortest]
  rfl

/-- A number that is not zero is not shown by zeros. -/
theorem shortest_digits_pos {m : Nat} (e : Int) (hm : 0 < m) : 0 < (shortest m e).digits := by
  rw [shortest]
  cases hfind : (candidates m e).find? (readsBack m e) with
  | none => exact exactDecimal_digits_pos e hm
  | some d =>
    have hread := List.find?_some hfind
    rw [readsBack, beq_iff_eq] at hread
    refine Nat.pos_of_ne_zero fun hzero => ?_
    rw [Option.getD_some] at hzero
    rw [hzero] at hread
    obtain ⟨-, hm', -⟩ := Binary64.finite.inj hread
    omega

end SymbolSieve.Binary64
