import Mathlib.Algebra.Ring.Nat
import SymbolSieve.Json.Reader
import SymbolSieve.Text.Quoted

/-!
# Hexadecimal notation

Escapes and ids are written with hexadecimal digits, of which there are at least so many.  The
number can be read off the digits again, so different numbers are written differently.

## What is here

* `hexValue`: the number that some hexadecimal digits denote.
* `hexValue_hexText`: the digits of a number denote the number.
* `hexText_four`: the four digits of a number below `0x10000`.
-/

set_option autoImplicit false

namespace SymbolSieve.Text

open Json

/-- The number that hexadecimal digits denote, most significant first. -/
def hexValue (cs : List Char) : Nat := cs.foldl (fun n c => 16 * n + (hexDigit? c).getD 0) 0

theorem hexDigit?_digitChar {d : Nat} (h : d < 16) : hexDigit? (Nat.digitChar d) = some d := by
  have hall : ∀ d : Fin 16, hexDigit? (Nat.digitChar d) = some d.val := by decide
  exact hall ⟨d, h⟩

theorem hexValue_concat (cs : List Char) (c : Char) :
    hexValue (cs ++ [c]) = 16 * hexValue cs + (hexDigit? c).getD 0 := by
  simp [hexValue]

theorem hexValue_toDigits (n : Nat) : hexValue (Nat.toDigits 16 n) = n := by
  induction n using Nat.strongRecOn with
  | ind n ih =>
    rw [Nat.toDigits_eq_if (by decide)]
    split
    next h => simp [hexValue, hexDigit?_digitChar h]
    next h =>
      rw [hexValue_concat, ih (n / 16) (by omega), hexDigit?_digitChar (by omega), Option.getD_some]
      omega

theorem hexValue_zeros (k : Nat) (cs : List Char) :
    hexValue (List.replicate k '0' ++ cs) = hexValue cs := by
  have hzero : hexDigit? '0' = some 0 := by decide
  induction k with
  | zero => rfl
  | succ k ih =>
    rw [← ih]
    simp [hexValue, List.replicate_succ, hzero]

/-- **The digits of a number denote the number.** -/
@[simp] theorem hexValue_hexText (width n : Nat) : hexValue (hexText width n) = n := by
  rw [hexText, hexValue_zeros, hexValue_toDigits]

theorem hexText_injective (width : Nat) {m n : Nat} (h : hexText width m = hexText width n) :
    m = n := by
  rw [← hexValue_hexText width m, h, hexValue_hexText]

/-! ## Digits -/

theorem exists_digit_of_mem_toDigits {n : Nat} {c : Char} (h : c ∈ Nat.toDigits 16 n) :
    ∃ d, d < 16 ∧ c = Nat.digitChar d := by
  induction n using Nat.strongRecOn with
  | ind n ih =>
    rw [Nat.toDigits_eq_if (by decide)] at h
    split at h
    next hlt => exact ⟨n, hlt, by simpa using h⟩
    next hge =>
      rw [List.mem_append, List.mem_singleton] at h
      rcases h with h | rfl
      · exact ih (n / 16) (by omega) h
      · exact ⟨n % 16, by omega, rfl⟩

theorem exists_digit_of_mem_hexText {width n : Nat} {c : Char} (h : c ∈ hexText width n) :
    ∃ d, d < 16 ∧ c = Nat.digitChar d := by
  rw [hexText, List.mem_append] at h
  rcases h with h | h
  · exact ⟨0, by decide, List.eq_of_mem_replicate h⟩
  · exact exists_digit_of_mem_toDigits h

theorem length_hexText {width n : Nat} (hwidth : 0 < width) (h : n < 16 ^ width) :
    (hexText width n).length = width := by
  have hle := (Nat.length_toDigits_le_iff (b := 16) (by decide) hwidth).2 h
  simp only [hexText, List.length_append, List.length_replicate]
  omega

/-- A number below `0x10000` has four digits, and is the UTF-16 unit that they are read as. -/
theorem hexText_four {n : Nat} (h : n < 0x10000) :
    ∃ a b c d, hexText 4 n = [a, b, c, d] ∧ unit? a b c d = some n := by
  have hlength : (hexText 4 n).length = 4 := length_hexText (by decide) (by omega)
  obtain ⟨a, b, c, d, hdigits⟩ : ∃ a b c d, hexText 4 n = [a, b, c, d] := by
    match hexText 4 n, hlength with
    | [a, b, c, d], _ => exact ⟨a, b, c, d, rfl⟩
  have hdigit : ∀ x ∈ [a, b, c, d], ∃ k, hexDigit? x = some k := by
    intro x hx
    rw [← hdigits] at hx
    obtain ⟨k, hk, rfl⟩ := exists_digit_of_mem_hexText hx
    exact ⟨k, hexDigit?_digitChar hk⟩
  obtain ⟨i, hi⟩ := hdigit a (by simp)
  obtain ⟨j, hj⟩ := hdigit b (by simp)
  obtain ⟨k, hk⟩ := hdigit c (by simp)
  obtain ⟨l, hl⟩ := hdigit d (by simp)
  have hvalue : hexValue [a, b, c, d] = n := by rw [← hdigits, hexValue_hexText]
  refine ⟨a, b, c, d, hdigits, ?_⟩
  simp only [hexValue, List.foldl_cons, List.foldl_nil, hi, hj, hk, hl, Option.getD_some] at hvalue
  simp only [unit?, hi, hj, hk, hl, Option.bind_eq_bind, Option.bind_some, Option.pure_def,
    Option.some.injEq]
  omega

end SymbolSieve.Text
