/-!
# Sets of code points

A set of characters is written as a list of closed ranges of code points, in increasing order.
This is the form of every character table of the library.
-/

set_option autoImplicit false

namespace SymbolSieve.Text

/-- Membership in a set of code points given as closed ranges in increasing order.

The search ends at the first range that starts above the code point, so characters with small code
points are found, or found to be absent, at once. -/
def inRanges (n : Nat) : List (Nat × Nat) → Bool
  | [] => false
  | (low, high) :: rest => if n < low then false else n ≤ high || inRanges n rest

/-- A member of the set lies in one of its ranges. -/
theorem exists_range_of_inRanges {n : Nat} {ranges : List (Nat × Nat)}
    (h : inRanges n ranges = true) : ∃ r ∈ ranges, r.1 ≤ n ∧ n ≤ r.2 := by
  induction ranges with
  | nil => simp [inRanges] at h
  | cons r rest ih =>
    obtain ⟨low, high⟩ := r
    by_cases hlow : n < low
    · simp [inRanges, hlow] at h
    · rcases (by simpa [inRanges, hlow] using h : n ≤ high ∨ inRanges n rest = true) with h | h
      · exact ⟨(low, high), by simp, by omega, h⟩
      · obtain ⟨r, hr, hn⟩ := ih h
        exact ⟨r, by simp [hr], hn⟩

end SymbolSieve.Text
