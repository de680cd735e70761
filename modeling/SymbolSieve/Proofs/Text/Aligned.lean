import Mathlib.Data.List.Forall2
import SymbolSieve.Proofs.Text.Letters
import SymbolSieve.Proofs.Text.Sigma

/-!
# Lower case, character by character

A text and its lower case need not stand side by side.  `İ` becomes two characters, what a capital
sigma becomes depends on what surrounds it, and some characters that are not of ASCII become letters
of ASCII, such as the Kelvin sign, which becomes a `k`.  But what begins with a text of ASCII in
lower case does stand beside it: there is no sigma in ASCII, nor the dot that `İ` leaves behind its
`i`.  The one exception is a text that ends in `i`, from which the dot can be cut off: the lower
case of `İ` begins with `i`, though no character there becomes an `i`.

## What is here

* `LowersTo`: a character whose lower case is a given one; a colon is the lower case of colons only.
* `prefix_lowerWithin_iff`: a text of ASCII that does not end in `i` begins the lower case of
  another text exactly if the characters at the beginning of that one become its characters one by
  one.
* `forall₂_lowersTo_of_lower_eq`: the same for a text that is the whole lower case of another one.
-/

set_option autoImplicit false

namespace SymbolSieve.Text

/-! ## Single characters -/

/-- The lower case of a character, taken by itself, is a given character. -/
def LowersTo (c d : Char) : Prop := lower (String.singleton c) = String.singleton d

theorem lowersTo_iff {c d : Char} : LowersTo c d ↔ lowerOne false c = [d] := by
  have hlower : (lower (String.singleton c)).toList = lowerOne false c := by
    rw [lower, String.toList_ofList, lowerFrom_eq, String.toList_singleton, lowerWithin,
      lowerWithin, List.append_nil, Bool.false_and]
  rw [LowersTo, ← String.toList_inj, hlower, String.toList_singleton]

instance : DecidableRel LowersTo := fun _ _ => decidable_of_iff' _ lowersTo_iff

/-- A sign in front of the letters is the lower case of nothing but itself. -/
theorem LowersTo.eq_of_lt {c d : Char} (h : LowersTo c d) (hpos : 0 < d.toNat)
    (hlt : d.toNat < 65) : c = d := by
  rw [lowersTo_iff, lowerOne] at h
  split at h
  · obtain rfl : '\u03C3' = d := by simpa using h
    exact absurd hlt (by decide)
  · split at h
    · simp at h
    · exact eq_of_lowerChar_eq hpos hlt (by simpa using h)

theorem LowersTo.eq_colon_iff {c d : Char} (h : LowersTo c d) : c = ':' ↔ d = ':' := by
  constructor
  · rintro rfl
    have hcolon : lowerOne false ':' = [':'] := by decide
    exact List.singleton_inj.1 ((lowersTo_iff.1 h).symm.trans hcolon)
  · rintro rfl
    exact h.eq_of_lt (by decide) (by decide)

/-- Where characters become others one by one, the colons stay where they are. -/
theorem colon_mem_iff_of_forall₂ {s t : List Char} (h : List.Forall₂ LowersTo s t) :
    ':' ∈ s ↔ ':' ∈ t := by
  induction h with
  | nil => simp
  | cons hcd _ ih => simp only [List.mem_cons, eq_comm (a := ':'), hcd.eq_colon_iff, ih]

/-! ## The beginning of a text -/

/-- One character of ASCII at the beginning of the lower case of a text, with others of ASCII behind
it.  What keeps the two aligned is that the dot behind the `i` of `İ` has no place among these. -/
theorem cons_prefix_lowerOne_append {c d : Char} {t rest : List Char} (hd : d.toNat < 128)
    (ht : ∀ e ∈ t, e.toNat < 128) (hend : d = 'i' → t ≠ []) (ends : Bool) :
    d :: t <+: lowerOne ends c ++ rest ↔ LowersTo c d ∧ t <+: rest := by
  rw [lowersTo_iff, lowerOne, lowerOne]
  split
  · -- Neither form of the sigma is of ASCII.
    have hsigma : d ≠ '\u03C2' ∧ d ≠ '\u03C3' := by
      constructor <;> rintro rfl <;> exact absurd hd (by decide)
    cases ends <;> simp [List.cons_prefix_cons, hsigma, hsigma.2.symm]
  · split
    · refine iff_of_false (fun h => ?_) (by simp)
      obtain ⟨rfl, hdot⟩ := List.cons_prefix_cons.1 h
      cases t with
      | nil => exact hend rfl rfl
      | cons e t =>
        obtain ⟨rfl, -⟩ := List.cons_prefix_cons.1 hdot
        exact absurd (ht _ List.mem_cons_self) (by decide)
    · simp [List.cons_prefix_cons, eq_comm]

/-- **A text of ASCII that does not end in `i`** begins the lower case of another text exactly if
the characters at the beginning of that text become its characters one by one. -/
theorem prefix_lowerWithin_iff {t : List Char} (ht : ∀ d ∈ t, d.toNat < 128)
    (hend : t.getLast? ≠ some 'i') (before behind : Bool) (s : List Char) :
    t <+: lowerWithin before behind s ↔ List.Forall₂ LowersTo (s.take t.length) t := by
  induction t generalizing before s with
  | nil => simp
  | cons d t ih =>
    cases s with
    | nil => simp [lowerWithin]
    | cons c s =>
      obtain ⟨hd, ht⟩ := List.forall_mem_cons.1 ht
      have hlast : d = 'i' → t ≠ [] := by
        rintro rfl rfl
        exact hend rfl
      have htail : t.getLast? ≠ some 'i' := by
        intro h
        rw [List.getLast?_cons, h] at hend
        exact hend rfl
      rw [lowerWithin, cons_prefix_lowerOne_append hd ht hlast, ih ht htail, List.length_cons,
        List.take_succ_cons, List.forall₂_cons]

example : ¬ LowersTo '\u0130' 'i' ∧ "i".toList <+: lowerWithin false false ['\u0130'] := by decide

/-! ## Whole texts -/

theorem one_le_length_lowerOne (ends : Bool) (c : Char) : 1 ≤ (lowerOne ends c).length := by
  rw [lowerOne]
  split
  · exact Nat.le_refl 1
  · split
    · exact Nat.le_succ 1
    · exact Nat.le_refl 1

/-- A text does not get shorter in lower case. -/
theorem length_le_length_lowerWithin (before behind : Bool) (s : List Char) :
    s.length ≤ (lowerWithin before behind s).length := by
  induction s generalizing before with
  | nil => exact Nat.le_refl 0
  | cons c s ih =>
    rw [lowerWithin, List.length_append, List.length_cons, Nat.add_comm]
    exact Nat.add_le_add (one_le_length_lowerOne _ c) (ih _)

/-- **The characters of a text become its lower case one by one** if that is of ASCII and does not
end in `i`. -/
theorem forall₂_lowersTo_of_lower_eq {s t : List Char} (ht : ∀ d ∈ t, d.toNat < 128)
    (hend : t.getLast? ≠ some 'i') (h : lower (String.ofList s) = String.ofList t) :
    List.Forall₂ LowersTo s t := by
  have hlower : lowerWithin false false s = t := by
    rw [← lowerFrom_eq]
    simpa [lower] using congrArg String.toList h
  have hlength : s.length ≤ t.length := hlower ▸ length_le_length_lowerWithin false false s
  have hprefix : t <+: lowerWithin false false s := by rw [hlower]
  rwa [prefix_lowerWithin_iff ht hend, List.take_of_length_le hlength] at hprefix

end SymbolSieve.Text
