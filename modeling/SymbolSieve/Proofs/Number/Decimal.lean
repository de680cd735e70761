import Mathlib.Algebra.Ring.Nat
import SymbolSieve.Proofs.Outcome
import SymbolSieve.Value.Shown

/-!
# Integers in decimal notation

Integers are written with the ten digits of ASCII and read with the digits of any script.  What is
written is read as the number that it was written for, and what is read is small enough to be
written, because both have the same limit on the number of digits.

## What is here

* `asciiValues`: the digits of a text of ASCII digits as numbers; `ofDigits_asciiValues_toDigits`
  says that those of a number denote the number.
* `ofDigits_lt`: how large a number with some digits can be.
* `leadingInt_intText`: the integer at the start of a written integer.
* `writableInt_of_leadingInt`: every integer that is read can be written.
-/

set_option autoImplicit false

namespace SymbolSieve

open Text

/-! ## Digits -/

/-- Characters as digits, for those that are ASCII digits. -/
def asciiValues (cs : List Char) : List Nat := cs.map fun c => c.toNat - 48

theorem ofDigits_asciiValues (cs : List Char) :
    ofDigits (asciiValues cs) = Nat.ofDigitChars 10 cs 0 := by
  simp [ofDigits, asciiValues, Nat.ofDigitChars_eq_foldl, List.foldl_map]

/-- The digits of a number denote the number. -/
@[simp] theorem ofDigits_asciiValues_toDigits (n : Nat) :
    ofDigits (asciiValues (Nat.toDigits 10 n)) = n := by
  rw [ofDigits_asciiValues, Nat.ofDigitChars_toDigits (by decide) (by decide)]

theorem isDigit_toDigits {n : Nat} {c : Char} (h : c ∈ Nat.toDigits 10 n) : c.isDigit = true :=
  Nat.isDigit_of_mem_toDigits (by decide) (by decide) h

theorem isDigit_iff_toNat {c : Char} : c.isDigit = true ↔ 48 ≤ c.toNat ∧ c.toNat ≤ 57 := by
  simp only [Char.isDigit, ge_iff_le, Bool.and_eq_true, decide_eq_true_eq, UInt32.le_iff_toNat_le]
  exact Iff.rfl

theorem isDigit_eq_ofNat {c : Char} (h : c.isDigit = true) :
    ∃ d : Fin 10, c = Char.ofNat (48 + d) ∧ c.toNat - 48 = d := by
  obtain ⟨hlow, hhigh⟩ := isDigit_iff_toNat.1 h
  refine ⟨⟨c.toNat - 48, by omega⟩, ?_, rfl⟩
  have hsum : 48 + (c.toNat - 48) = c.toNat := by omega
  rw [hsum, Char.ofNat_toNat]

/-- An ASCII digit is a digit like those of other scripts. -/
theorem digit?_of_isDigit {c : Char} (h : c.isDigit = true) : digit? c = some (c.toNat - 48) := by
  obtain ⟨d, hc, hd⟩ := isDigit_eq_ofNat h
  rw [hd, hc, digit?_ascii]

theorem isBlank_of_isDigit {c : Char} (h : c.isDigit = true) : isBlank c = false := by
  obtain ⟨d, rfl, -⟩ := isDigit_eq_ofNat h
  revert d
  decide

/-- A number with `k` digits is below `10 ^ k`. -/
theorem ofDigits_lt {ds : List Nat} (h : ∀ d ∈ ds, d < 10) : ofDigits ds < 10 ^ ds.length := by
  -- The digits that were already read make the first factor.
  have general : ∀ (ds : List Nat) (n : Nat), (∀ d ∈ ds, d < 10) →
      ds.foldl (fun n d => 10 * n + d) n < (n + 1) * 10 ^ ds.length := by
    intro ds
    induction ds with
    | nil => intro n _; simp
    | cons d ds ih =>
      intro n hds
      have hd : d < 10 := hds d (by simp)
      have hrest := ih (10 * n + d) fun e he => hds e (by simp [he])
      have hstep : (10 * n + d + 1) * 10 ^ ds.length ≤ (n + 1) * 10 * 10 ^ ds.length :=
        Nat.mul_le_mul_right _ (by omega)
      rw [List.foldl_cons, List.length_cons, Nat.pow_succ, Nat.mul_comm (10 ^ ds.length),
        ← Nat.mul_assoc]
      exact Nat.lt_of_lt_of_le hrest hstep
  simpa [ofDigits] using general ds 0 h

theorem writableInt_iff {n : Int} : writableInt n = true ↔ n.natAbs < 10 ^ digitLimit := by
  rw [writableInt, decide_eq_true_iff, Nat.pow_eq]

/-! ## Reading what was written -/

namespace Number

/-- Digits are taken up to the first character that is none. -/
theorem takeDigits_append {cs : List Char} (rest : List Char) (h : ∀ c ∈ cs, c.isDigit = true)
    (hrest : ∀ c ∈ rest.head?, digit? c = none) : takeDigits (cs ++ rest) = asciiValues cs := by
  induction cs with
  | nil =>
    cases rest with
    | nil => rfl
    | cons c rest =>
      have hc : digit? c = none := hrest c (by simp)
      simp [takeDigits, asciiValues, hc]
  | cons c cs ih =>
    have hc : digit? c = some (c.toNat - 48) := digit?_of_isDigit (h c (by simp))
    have hcs := ih fun d hd => h d (by simp [hd])
    simp [takeDigits, hc, hcs, asciiValues]

theorem lt_of_mem_takeDigits {s : List Char} {d : Nat} (h : d ∈ takeDigits s) : d < 10 := by
  induction s with
  | nil => simp [takeDigits] at h
  | cons c s ih =>
    cases hc : digit? c with
    | none => simp [takeDigits, hc] at h
    | some e =>
      rcases (by simpa [takeDigits, hc] using h : d = e ∨ d ∈ takeDigits s) with rfl | h
      · exact digit?_lt hc
      · exact ih h

theorem digitLimit_pos : 0 < digitLimit := by decide

theorem length_toDigits_le {n : Nat} (h : n < 10 ^ digitLimit) :
    (asciiValues (Nat.toDigits 10 n)).length ≤ digitLimit := by
  rw [asciiValues, List.length_map]
  exact (Nat.length_toDigits_le_iff (by decide) digitLimit_pos).2 h

/-- The digits of a number that is not too long are read as that number. -/
theorem ofSignedDigits_toDigits {n : Nat} (h : n < 10 ^ digitLimit) (negative : Bool) :
    ofSignedDigits negative (asciiValues (Nat.toDigits 10 n))
      = .ok (if negative then -(n : Int) else n) := by
  have hlength := length_toDigits_le h
  rw [ofSignedDigits, if_neg (by omega), ofDigits_asciiValues_toDigits]

/-- A text that starts with a digit has no sign in front. -/
theorem takeSign_of_isDigit {c : Char} (h : c.isDigit = true) (rest : List Char) :
    takeSign (c :: rest) = (false, c :: rest) := by
  have hne : c ≠ '+' ∧ c ≠ '-' := by
    constructor <;> rintro rfl <;> exact absurd h (by decide)
  unfold takeSign
  split
  · exact absurd (by simp_all) hne.1
  · exact absurd (by simp_all) hne.2
  · rfl

/-- The characters of a number in decimal notation: a digit and more digits. -/
theorem exists_toDigits_eq_cons (n : Nat) :
    ∃ c cs, Nat.toDigits 10 n = c :: cs ∧ c.isDigit = true := by
  obtain ⟨c, cs, h⟩ := List.exists_cons_of_ne_nil (Nat.toDigits_ne_nil (n := n) (b := 10))
  exact ⟨c, cs, h, isDigit_toDigits (by rw [h]; simp)⟩

/-- The digits behind a sign are read as the signed number. -/
theorem leadingInt_of_takeSign {s : List Char} {negative : Bool} {n : Nat}
    (h : n < 10 ^ digitLimit)
    (hs : takeSign (s.dropWhile isBlank) = (negative, Nat.toDigits 10 n)) :
    leadingInt s = .ok (some (if negative then -(n : Int) else n)) := by
  obtain ⟨c, cs, hcs, -⟩ := exists_toDigits_eq_cons n
  have htake : takeDigits (Nat.toDigits 10 n) = asciiValues (Nat.toDigits 10 n) := by
    simpa using takeDigits_append [] (fun c hc => isDigit_toDigits hc) (by simp)
  have hread := ofSignedDigits_toDigits h negative
  rw [leadingInt, hs]
  rw [hcs] at htake hread ⊢
  simp only [htake]
  simp only [asciiValues, List.map_cons] at hread ⊢
  rw [hread]
  rfl

/-- **The integer at the start of a written integer is that integer.** -/
theorem leadingInt_intText {n : Int} (h : writableInt n = true) :
    leadingInt (intText n).toList = .ok (some n) := by
  have hlt : n.natAbs < 10 ^ digitLimit := writableInt_iff.1 h
  by_cases hneg : n < 0
  · have htext : (intText n).toList = '-' :: Nat.toDigits 10 n.natAbs := by
      simp [intText, hneg, natText]
    have hsign : takeSign ((intText n).toList.dropWhile isBlank)
        = (true, Nat.toDigits 10 n.natAbs) := by
      rw [htext, List.dropWhile_cons_of_neg (by decide)]
      rfl
    have habs : -(n.natAbs : Int) = n := by omega
    rw [leadingInt_of_takeSign hlt hsign, if_pos rfl, habs]
  · have htext : (intText n).toList = Nat.toDigits 10 n.natAbs := by simp [intText, hneg, natText]
    have hsign : takeSign ((intText n).toList.dropWhile isBlank)
        = (false, Nat.toDigits 10 n.natAbs) := by
      obtain ⟨c, cs, hcs, hc⟩ := exists_toDigits_eq_cons n.natAbs
      rw [htext, hcs, List.dropWhile_cons_of_neg (by simp [isBlank_of_isDigit hc]),
        takeSign_of_isDigit hc]
    have habs : (n.natAbs : Int) = n := by omega
    rw [leadingInt_of_takeSign hlt hsign, if_neg (by decide), habs]

theorem writableInt_ofSignedDigits {negative : Bool} {ds : List Nat} {n : Int}
    (hds : ∀ d ∈ ds, d < 10) (h : ofSignedDigits negative ds = .ok n) : writableInt n = true := by
  rw [ofSignedDigits] at h
  split at h
  · cases h
  next hlength =>
    have hlt : ofDigits ds < 10 ^ digitLimit :=
      Nat.lt_of_lt_of_le (ofDigits_lt hds) (Nat.pow_le_pow_right (by decide) (by omega))
    have habs : n.natAbs = ofDigits ds := by
      cases h
      cases negative <;> simp
    rw [writableInt_iff, habs]
    exact hlt

/-- Every integer that is read at the start of a text can be written. -/
theorem writableInt_of_leadingInt {s : List Char} {n : Int} (h : leadingInt s = .ok (some n)) :
    writableInt n = true := by
  simp only [leadingInt] at h
  split at h
  · cases h
  next ds hds =>
    obtain ⟨m, hread, hm⟩ := map_eq_ok_iff.1 h
    obtain rfl : m = n := by simpa using hm
    exact writableInt_ofSignedDigits (fun d hd => lt_of_mem_takeDigits hd) hread

end Number

end SymbolSieve
