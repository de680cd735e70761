import SymbolSieve.Proofs.Number.Nearest

/-!
# Integers beyond floating-point numbers

An integer is turned into the nearest number of the format, unless that is infinite.  The greatest
number of the format has 53 binary digits that are all one, and an integer is rounded to it as long
as it is less than half a unit away from it; from there on it is beyond the format.

## What is here

* `overflowBound`: the least natural number that is beyond the format.
* `ofInt?_eq_none_iff`: the integers that are beyond it.
-/

set_option autoImplicit false

namespace SymbolSieve.Binary64

/-- A fraction is rounded to an even number or beyond it if it is at most half a unit below. -/
theorem le_roundHalfEven_iff {m den : Nat} (num : Nat) (hm : m % 2 = 0) (hden : 0 < den) :
    m ≤ roundHalfEven num den ↔ 2 * (m * den) ≤ 2 * num + den := by
  obtain ⟨hlow, hhigh⟩ := roundHalfEven_bounds num den
  have hsum := Nat.div_add_mod' num den
  have hr := Nat.mod_lt num hden
  rcases Nat.lt_trichotomy m (num / den + 1) with hlt | heq | hgt
  · have hmul : m * den ≤ num / den * den := Nat.mul_le_mul_right den (by omega)
    exact iff_of_true (by omega) (by omega)
  · have hmul : m * den = num / den * den + den := by rw [heq, Nat.add_mul, Nat.one_mul]
    simp only [roundHalfEven]
    split
    · omega
    · split
      · omega
      · rw [if_neg (by omega)]
        omega
  · have hmul : (num / den + 2) * den ≤ m * den := Nat.mul_le_mul_right den (by omega)
    rw [Nat.add_mul] at hmul
    exact iff_of_false (by omega) (by omega)

theorem scaleDown_natural (num k : Nat) : scaleDown num 1 k = (num, 2 ^ k) := by
  simp [scaleDown]

theorem unitExponent_natural {num : Nat} (h : 0 < num) :
    unitExponent num 1 = (Nat.log 2 num : Int) - 52 := by
  rw [unitExponent_eq h Nat.one_pos, Nat.cast_one, div_one, Int.log_natCast]
  omega

/-- A fraction is beyond the format if its unit is, or if it is rounded to one digit more than the
greatest unit allows. -/
theorem ofRatio_eq_infinite_iff (negative : Bool) {num den : Nat} (h : 0 < num) :
    (∃ b, ofRatio negative num den = .infinite b) ↔
      971 < unitExponent num den ∨ unitExponent num den = 971 ∧
        roundHalfEven (scaleDown num den 971).1 (scaleDown num den 971).2 = 2 ^ 53 := by
  simp only [ofRatio, if_neg h.ne', Nat.pow_eq]
  generalize unitExponent num den = e
  by_cases hlast : e = 971
  · subst hlast
    split <;> simp_all
  · split <;> split <;> simp_all <;> omega

/-- A natural number has more than `k + 54` binary digits, or is rounded to as many, if it is at
least halfway from the greatest number with 53 digits behind `k + 1` zeros. -/
theorem log_or_round_iff {num : Nat} (h : 0 < num) (k : Nat) :
    k + 54 ≤ Nat.log 2 num ∨
        Nat.log 2 num = k + 53 ∧ roundHalfEven num (2 ^ (k + 1)) = 2 ^ 53 ↔
      (2 ^ 54 - 1) * 2 ^ k ≤ num := by
  have hround := le_roundHalfEven_iff (m := 2 ^ 53) num (by decide) (Nat.two_pow_pos (k + 1))
  have hquotient := (roundHalfEven_bounds num (2 ^ (k + 1))).2
  have hcarry : num < 2 ^ (k + 1) * 2 ^ 53 → num / 2 ^ (k + 1) < 2 ^ 53 := Nat.div_lt_of_lt_mul
  have hlog : ∀ j, k + j ≤ Nat.log 2 num ↔ 2 ^ j * 2 ^ k ≤ num := fun j => by
    rw [Nat.le_log_iff_pow_le (by decide) h.ne', pow_add, mul_comm]
  have h53 := hlog 53
  have h54 := hlog 54
  have hunit : 2 ^ (k + 1) = 2 * 2 ^ k := by rw [pow_succ, mul_comm]
  have hpos := Nat.two_pow_pos k
  rw [hunit] at hround hquotient hcarry ⊢
  generalize 2 ^ k = p at *
  omega

/-- The least natural number that is beyond the format: it is halfway between the greatest number
and the power of two behind it. -/
def overflowBound : Nat := (2 ^ 54 - 1) * 2 ^ 970

theorem overflowBound_pos : 0 < overflowBound := by
  have hpos : ∀ k, 0 < (2 ^ 54 - 1) * 2 ^ k := fun k =>
    Nat.mul_pos (by decide) (Nat.two_pow_pos k)
  exact hpos 970

/-- **The integers that are beyond the format.** -/
theorem ofInt?_eq_none_iff (n : Int) : ofInt? n = none ↔ overflowBound ≤ n.natAbs := by
  have hinfinite : ofInt? n = none ↔ ∃ b, ofRatio (n < 0) n.natAbs 1 = .infinite b := by
    rw [ofInt?]
    split
    next b hb => exact iff_of_true rfl ⟨b, hb⟩
    next hb => exact iff_of_false nofun fun ⟨b, h⟩ => hb b h
  rw [hinfinite]
  rcases Nat.eq_zero_or_pos n.natAbs with hzero | h
  · rw [hzero]
    exact iff_of_false (by simp [ofRatio, zero]) (Nat.not_le.2 overflowBound_pos)
  · have hscale : scaleDown n.natAbs 1 971 = (n.natAbs, 2 ^ (970 + 1)) :=
      scaleDown_natural n.natAbs (970 + 1)
    rw [ofRatio_eq_infinite_iff _ h, hscale, overflowBound, ← log_or_round_iff h 970,
      unitExponent_natural h]
    refine or_congr ?_ (and_congr_left' ?_) <;> omega

end SymbolSieve.Binary64
