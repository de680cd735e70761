import SymbolSieve.Text.Blank
import SymbolSieve.Text.Case

/-!
# Characters without case

White space has no case: no character becomes white space, or stops being white space, when it is
put in lower case or compared up to case.  The tables of both are far apart.  The signs and digits
in front of the letters of ASCII have no case either, and nothing but themselves becomes one of
them.

## What is here

* `isBlank_lowerChar` and `isBlank_eq_of_sameLetter`: white space and case.
* `sameLetter_iff_of_lt`: the signs in front of the letters.
-/

set_option autoImplicit false

namespace SymbolSieve.Text

/-- A code point stays where it is, or moves with a run that it lies in. -/
theorem lowerFromRuns_eq (n : Nat) (runs : List CaseRun) :
    lowerFromRuns n runs = n ∨ ∃ run ∈ runs, run.first ≤ n ∧ n ≤ run.last ∧
      lowerFromRuns n runs = (n + run.shift).toNat := by
  induction runs with
  | nil => exact .inl rfl
  | cons run runs ih =>
    simp only [lowerFromRuns]
    split
    · exact .inl rfl
    · split
      · split
        · exact .inr ⟨run, by simp, by omega, by assumption, rfl⟩
        · exact .inl rfl
      · rcases ih with h | ⟨run', hrun', hrest⟩
        · exact .inl h
        · exact .inr ⟨run', by simp [hrun'], hrest⟩

/-- Neither the code points of a run nor those that they move to are white space. -/
theorem blanks_apart_lowerRuns : ∀ run ∈ lowerRuns, ∀ r ∈ blanks,
    (run.last < r.1 ∨ r.2 < run.first) ∧
      ((run.last : Int) + run.shift < r.1 ∨ (r.2 : Int) < run.first + run.shift) := by
  decide +kernel

theorem toNat_ofNat_eq_or (n : Nat) : (Char.ofNat n).toNat = n ∨ (Char.ofNat n).toNat = 0 := by
  by_cases h : n.isValidChar
  · have hvalid : Char.ofNat n = Char.ofNatAux n h := dif_pos h
    rw [hvalid]
    exact .inl rfl
  · have hinvalid : Char.ofNat n = '\x00' := dif_neg h
    rw [hinvalid]
    exact .inr rfl

theorem isBlank_toLower_of_lt {c : Char} (h : c.toNat < 128) : isBlank c.toLower = isBlank c := by
  have hall : ∀ n < 128, isBlank (Char.ofNat n).toLower = isBlank (Char.ofNat n) := by
    decide +kernel
  simpa [Char.ofNat_toNat] using hall c.toNat h

theorem isBlank_lowerChar (c : Char) : isBlank (lowerChar c) = isBlank c := by
  rw [lowerChar]
  split
  next h => exact isBlank_toLower_of_lt h
  next =>
    rcases lowerFromRuns_eq c.toNat lowerRuns with hself | ⟨run, hrun, hfirst, hlast, hmoved⟩
    · rw [hself, Char.ofNat_toNat]
    · -- A character that moves is not white space, neither before nor after.
      have hbefore : isBlank c = false := by
        rw [Bool.eq_false_iff]
        intro hblank
        obtain ⟨r, hr, hlow, hhigh⟩ := exists_range_of_inRanges hblank
        have := (blanks_apart_lowerRuns run hrun r hr).1
        omega
      rw [hbefore, hmoved, Bool.eq_false_iff]
      intro hblank
      obtain ⟨r, hr, hlow, hhigh⟩ := exists_range_of_inRanges hblank
      have hapart := (blanks_apart_lowerRuns run hrun r hr).2
      have hpositive : ∀ r ∈ blanks, 0 < r.1 := by decide
      have := hpositive r hr
      rcases toNat_ofNat_eq_or (c.toNat + run.shift).toNat with hchar | hchar <;> omega

theorem isBlank_foldChar (c : Char) : isBlank (foldChar c) = isBlank c := by
  have htwins : ∀ e ∈ caseTwins, isBlank e.1 = isBlank e.2 := by decide +kernel
  rw [← isBlank_lowerChar c]
  simp only [foldChar]
  cases htwin : caseTwins.lookup (lowerChar c) with
  | none => rfl
  | some d =>
    obtain ⟨before, after, hlist, -⟩ := List.lookup_eq_some_iff.1 htwin
    exact (htwins (lowerChar c, d) (by simp [hlist])).symm

theorem isBlank_eq_of_sameLetter {c d : Char} (h : sameLetter c d = true) :
    isBlank c = isBlank d := by
  have hfold : foldChar c = foldChar d := by simpa [sameLetter] using h
  rw [← isBlank_foldChar c, hfold, isBlank_foldChar]

/-! ## Characters in front of the letters -/

/-- What moves from beyond ASCII does not move in front of the letters. -/
theorem le_of_mem_lowerRuns : ∀ run ∈ lowerRuns,
    run.last < 128 ∨ (65 : Int) ≤ run.first + run.shift := by
  decide +kernel

/-- A character in front of the letters is the lower case of nothing else. -/
theorem eq_of_lowerChar_eq {c d : Char} (hpos : 0 < d.toNat) (hlt : d.toNat < 65)
    (h : lowerChar c = d) : c = d := by
  rw [lowerChar] at h
  split at h
  next hascii =>
    have hall : ∀ n < 128, (Char.ofNat n).toLower = Char.ofNat n ∨
        65 ≤ (Char.ofNat n).toLower.toNat := by
      decide +kernel
    have hc := hall c.toNat hascii
    rw [Char.ofNat_toNat] at hc
    rcases hc with hself | hletter
    · rw [← h, hself]
    · rw [h] at hletter
      omega
  next hascii =>
    have hne : (Char.ofNat (lowerFromRuns c.toNat lowerRuns)).toNat ≠ 0 := by rw [h]; omega
    have hnat := (toNat_ofNat_eq_or (lowerFromRuns c.toNat lowerRuns)).resolve_right hne
    rw [h] at hnat
    rcases lowerFromRuns_eq c.toNat lowerRuns with hself | ⟨run, hrun, hfirst, hlast, hmoved⟩
    · omega
    · have := le_of_mem_lowerRuns run hrun
      omega

/-- **A character in front of the letters** is the same letter only as itself. -/
theorem sameLetter_iff_of_lt {c d : Char} (hpos : 0 < d.toNat) (hlt : d.toNat < 65) :
    sameLetter d c = true ↔ c = d := by
  constructor
  · intro h
    have hself : ∀ n < 65, foldChar (Char.ofNat n) = Char.ofNat n := by decide +kernel
    have hd : foldChar d = d := by simpa [Char.ofNat_toNat] using hself d.toNat hlt
    have hfold : (caseTwins.lookup (lowerChar c)).getD (lowerChar c) = d := by
      rw [← hd]
      exact (eq_of_beq h).symm
    cases htwin : caseTwins.lookup (lowerChar c) with
    | none => exact eq_of_lowerChar_eq hpos hlt (by rw [← hfold, htwin, Option.getD_none])
    | some e =>
      have he : e = d := by rw [← hfold, htwin, Option.getD_some]
      have htwins : ∀ e ∈ caseTwins, 65 ≤ e.2.toNat := by decide +kernel
      obtain ⟨before, after, hlist, -⟩ := List.lookup_eq_some_iff.1 htwin
      have hletter : 65 ≤ e.toNat := htwins (lowerChar c, e) (by simp [hlist])
      rw [he] at hletter
      omega
  · rintro rfl
    exact sameLetter_refl c

end SymbolSieve.Text
