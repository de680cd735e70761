import Mathlib.Tactic.SplitIfs
import SymbolSieve.Glob
import SymbolSieve.Proofs.Text.Letters

/-!
# Paths that patterns match

Every pattern matches some path, and white space in a pattern stands for white space in every path
that it matches.  So a pattern with white space does not match the same paths as one without.

## What is here

* `exists_accepts`: every pattern matches some path, with no white space that the pattern does not
  have.
* `exists_isBlank_of_accepts`: the paths of a pattern with white space have some, too.
-/

set_option autoImplicit false

namespace SymbolSieve.Glob

open Text

/-! ## The elements of a pattern -/

theorem isBlank_of_mem_spelledStar {c : Char} (h : c ∈ spelledStar) : isBlank c = false := by
  have hall : spelledStar.all (fun c => !isBlank c) = true := by decide
  simpa using List.all_eq_true.1 hall c h

/-- The characters of a pattern stay when its double stars are spelled out, and what is added is no
white space. -/
theorem isBlank_mem_spellStars {c : Char} (hc : isBlank c = true) {s : List Char} :
    c ∈ spellStars s ↔ c ∈ s := by
  have hstar : c ≠ '*' := by rintro rfl; cases hc
  have hspelled : c ∉ spelledStar := fun h => by rw [isBlank_of_mem_spelledStar h] at hc; cases hc
  fun_induction spellStars s with
  | case1 rest ih => simp [hstar, hspelled, ih]
  | case2 d rest _ ih => simp [ih]
  | case3 => simp

theorem exactly_eq_ofChar_iff {c d : Char} (hc : isBlank c = true) :
    .exactly c = Element.ofChar d ↔ c = d := by
  have hstar : c ≠ '*' := by rintro rfl; cases hc
  have hone : c ≠ '?' := by rintro rfl; cases hc
  rw [Element.ofChar]
  split_ifs <;> simp_all

/-- White space is never part of a spelled double star, so it is read as itself. -/
theorem exactly_mem_elementsFrom {c : Char} (hc : isBlank c = true) {s : List Char} {fuel : Nat}
    (hfuel : s.length ≤ fuel) : .exactly c ∈ elementsFrom fuel s ↔ c ∈ s := by
  have hspelled : c ∉ spelledStar := fun h => by rw [isBlank_of_mem_spelledStar h] at hc; cases hc
  fun_induction elementsFrom fuel s with
  | case1 s => simp [List.eq_nil_of_length_eq_zero (Nat.le_zero.1 hfuel)]
  | case2 => simp
  | case3 fuel d rest hstar ih =>
    obtain ⟨tail, htail⟩ := List.isPrefixOf_iff_prefix.1 hstar
    have hlength : spelledStar.length = 12 := rfl
    have hdrop : (d :: rest).drop spelledStar.length = tail := by rw [← htail, List.drop_left]
    have hshort : ((d :: rest).drop spelledStar.length).length ≤ fuel := by
      rw [List.length_drop]
      simp only [List.length_cons] at hfuel ⊢
      omega
    have hrest : .exactly c ∈ elementsFrom fuel tail ↔ c ∈ tail := by
      simpa only [hdrop] using ih hshort
    rw [hdrop, List.mem_cons, hrest, ← htail, List.mem_append]
    simp [hspelled]
  | case4 fuel d rest _ ih =>
    have hrest : .exactly c ∈ elementsFrom fuel rest ↔ c ∈ rest := ih (by simpa using hfuel)
    rw [List.mem_cons, List.mem_cons, hrest, exactly_eq_ofChar_iff hc]

/-- The white space of a pattern stands for itself. -/
theorem exactly_mem_elements {c : Char} (hc : isBlank c = true) (s : String) :
    .exactly c ∈ (ofText s).elements ↔ c ∈ s.toList := by
  rw [ofText, exactly_mem_elementsFrom hc (Nat.le_refl _), isBlank_mem_spellStars hc]

/-! ## Paths -/

/-- What a place of a pattern matches, nothing if it may. -/
def Element.sample : Element → List Char
  | .exactly c => [c]
  | .one => ['x']
  | .star | .doubleStar => []

theorem span_of_passes {allowed : Char → Bool} {passes : List Char → Bool} {s : List Char}
    (h : passes s = true) : span allowed passes s = true := by
  cases s <;> simp [span, h]

theorem acceptsFrom_sample (closed : Bool) (es : List Element) :
    acceptsFrom closed es (es.flatMap Element.sample) = true := by
  induction es with
  | nil => simp [acceptsFrom, mayEnd]
  | cons e es ih =>
    cases e with
    | exactly c => simpa [acceptsFrom, Element.sample, sameLetter_refl] using ih
    | one => simpa [acceptsFrom, Element.sample] using ih
    | star | doubleStar => exact span_of_passes ih

/-- **Every pattern matches some path**, which has no white space that the pattern does not
have. -/
theorem exists_accepts (s : String) : ∃ path, (ofText s).accepts path = true ∧
    ∀ c ∈ path.toList, isBlank c = true → c ∈ s.toList := by
  refine ⟨String.ofList ((ofText s).elements.flatMap Element.sample), ?_, ?_⟩
  · rw [accepts, String.toList_ofList]
    exact acceptsFrom_sample _ _
  · intro c hmem hc
    rw [String.toList_ofList] at hmem
    obtain ⟨e, he, hsample⟩ := List.mem_flatMap.1 hmem
    cases e with
    | exactly d =>
      obtain rfl : c = d := by simpa [Element.sample] using hsample
      exact (exactly_mem_elements hc s).1 he
    | one =>
      obtain rfl : c = 'x' := by simpa [Element.sample] using hsample
      cases hc
    | star | doubleStar => simp [Element.sample] at hsample

theorem exists_suffix_of_span {allowed : Char → Bool} {passes : List Char → Bool} {s : List Char}
    (h : span allowed passes s = true) : ∃ rest, rest <:+ s ∧ passes rest = true := by
  induction s with
  | nil => exact ⟨[], List.suffix_rfl, h⟩
  | cons c s ih =>
    rcases (by simpa [span] using h :
      passes (c :: s) = true ∨ allowed c = true ∧ span allowed passes s = true) with h | ⟨-, h⟩
    · exact ⟨c :: s, List.suffix_rfl, h⟩
    · obtain ⟨rest, hrest, hpasses⟩ := ih h
      exact ⟨rest, hrest.trans (List.suffix_cons c s), hpasses⟩

/-- A character of a pattern is in every path that it matches, in either case. -/
theorem exists_sameLetter {closed : Bool} {c : Char} {es : List Element} {path : List Char}
    (hc : .exactly c ∈ es) (h : acceptsFrom closed es path = true) :
    ∃ d ∈ path, sameLetter c d = true := by
  induction es generalizing path with
  | nil => cases hc
  | cons e es ih =>
    cases e with
    | exactly d =>
      cases path with
      | nil => simp [acceptsFrom] at h
      | cons d' rest =>
        simp only [acceptsFrom, Bool.and_eq_true] at h
        rcases List.mem_cons.1 hc with hhead | htail
        · cases hhead
          exact ⟨d', by simp, h.1⟩
        · obtain ⟨d'', hd'', hsame⟩ := ih htail h.2
          exact ⟨d'', by simp [hd''], hsame⟩
    | one =>
      cases path with
      | nil => simp [acceptsFrom] at h
      | cons d' rest =>
        simp only [acceptsFrom, Bool.and_eq_true] at h
        obtain ⟨d'', hd'', hsame⟩ := ih (by simpa using hc) h.2
        exact ⟨d'', by simp [hd''], hsame⟩
    | star | doubleStar =>
      obtain ⟨rest, hrest, hpasses⟩ := exists_suffix_of_span h
      obtain ⟨d, hd, hsame⟩ := ih (by simpa using hc) hpasses
      exact ⟨d, hrest.subset hd, hsame⟩

/-- **White space in a pattern is white space in every path that it matches.** -/
theorem exists_isBlank_of_accepts {s path : String} {c : Char} (hc : c ∈ s.toList)
    (hblank : isBlank c = true) (h : (ofText s).accepts path = true) :
    ∃ d ∈ path.toList, isBlank d = true := by
  obtain ⟨d, hd, hsame⟩ := exists_sameLetter ((exactly_mem_elements hblank s).2 hc) h
  exact ⟨d, hd, by rw [← isBlank_eq_of_sameLetter hsame, hblank]⟩

end SymbolSieve.Glob
