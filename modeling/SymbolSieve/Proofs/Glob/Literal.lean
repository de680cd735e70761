import SymbolSieve.Proofs.Glob.Pieces

/-!
# Patterns without wildcards

A pattern without stars and question marks should match the paths that begin with it, up to case.
But double stars are marked by a text of their own while the others are exchanged, and nothing keeps
that text out of a pattern: where it occurs, it is read as a double star, which no star in the
pattern announces.  Every other pattern without wildcards stands for itself, whatever signs it has.

## What is here

* `BeginsLike`: the first characters of a path are those of a pattern, up to case.
* `elementsFrom_literal`: the elements of a pattern in which no double star is spelled out.
* `length_samples_lt`: a spelled double star lets a pattern match paths that are shorter than it.
* `literal_iff`: a pattern without wildcards stands for itself exactly if it does not spell out a
  double star.
-/

set_option autoImplicit false

namespace SymbolSieve.Glob

open Text

/-- A path is at least as long as a pattern, and its first characters are those of the pattern, up
to case. -/
def BeginsLike (pattern path : String) : Prop :=
  List.Forall₂ (sameLetter · ·) pattern.toList (path.toList.take pattern.toList.length)

/-! ## Elements -/

theorem spellStars_of_not_mem {s : List Char} (h : '*' ∉ s) : spellStars s = s := by
  fun_induction spellStars s with
  | case1 rest => simp at h
  | case2 c rest _ ih => rw [ih fun hmem => h (by simp [hmem])]
  | case3 => rfl

theorem ofChar_of_ne {c : Char} (hstar : c ≠ '*') (hone : c ≠ '?') :
    Element.ofChar c = .exactly c := by
  rw [Element.ofChar, if_neg hstar, if_neg hone]

/-- Characters stand for themselves where no double star is spelled out. -/
theorem elementsFrom_literal {fuel : Nat} {s : List Char} (hfuel : s.length ≤ fuel)
    (hstar : '*' ∉ s) (hone : '?' ∉ s) (h : ¬ spelledStar <:+: s) :
    elementsFrom fuel s = s.map .exactly := by
  fun_induction elementsFrom fuel s with
  | case1 s => simp [List.eq_nil_of_length_eq_zero (Nat.le_zero.1 hfuel)]
  | case2 => rfl
  | case3 fuel c rest hspelled => exact absurd (List.isPrefixOf_iff_prefix.1 hspelled).isInfix h
  | case4 fuel c rest _ ih =>
    rw [List.mem_cons, not_or] at hstar hone
    rw [ofChar_of_ne (Ne.symm hstar.1) (Ne.symm hone.1),
      ih (by simpa using hfuel) hstar.2 hone.2 fun hinfix => h (List.infix_cons hinfix),
      List.map_cons]

theorem length_sample_le (e : Element) : e.sample.length ≤ 1 := by
  cases e <;> simp [Element.sample]

/-- A pattern matches a path that is no longer than it. -/
theorem length_samples_le {fuel : Nat} {s : List Char} :
    ((elementsFrom fuel s).flatMap Element.sample).length ≤ s.length := by
  fun_induction elementsFrom fuel s with
  | case1 => exact Nat.zero_le _
  | case2 => exact Nat.le_refl _
  | case3 fuel c rest _ ih =>
    refine Nat.le_trans ih ?_
    simp
  | case4 fuel c rest _ ih =>
    have := length_sample_le (Element.ofChar c)
    simp only [List.flatMap_cons, List.length_append, List.length_cons]
    omega

/-- A pattern that spells out a double star matches a path that is shorter than it. -/
theorem length_samples_lt {fuel : Nat} {s : List Char} (hfuel : s.length ≤ fuel)
    (h : spelledStar <:+: s) :
    ((elementsFrom fuel s).flatMap Element.sample).length < s.length := by
  fun_induction elementsFrom fuel s with
  | case1 s =>
    rw [List.eq_nil_of_length_eq_zero (Nat.le_zero.1 hfuel)] at h
    exact absurd h (by decide)
  | case2 => exact absurd h (by decide)
  | case3 fuel c rest _ _ =>
    have hrest := @length_samples_le fuel ((c :: rest).drop spelledStar.length)
    have hlength : spelledStar.length = 12 := rfl
    simp only [List.flatMap_cons, Element.sample, List.nil_append, List.length_drop,
      List.length_cons] at hrest ⊢
    omega
  | case4 fuel c rest hstart ih =>
    have hrest : spelledStar <:+: rest :=
      (List.infix_cons_iff.1 h).resolve_left fun hprefix =>
        hstart (List.isPrefixOf_iff_prefix.2 hprefix)
    have := ih (by simpa using hfuel) hrest
    have := length_sample_le (Element.ofChar c)
    simp only [List.flatMap_cons, List.length_append, List.length_cons]
    omega

/-! ## Matching -/

/-- Characters match the beginning of a path one by one. -/
theorem acceptsFrom_literal {s path : List Char} :
    acceptsFrom false (s.map .exactly) path = true ↔
      List.Forall₂ (sameLetter · ·) s (path.take s.length) := by
  induction s generalizing path with
  | nil => simp [acceptsFrom, mayEnd]
  | cons c s ih =>
    cases path with
    | nil => simp [acceptsFrom]
    | cons d path => simp [acceptsFrom, ih]

/-- **A pattern without wildcards stands for itself exactly if it does not spell out a double
star.** -/
theorem literal_iff {pattern : String} (hstar : '*' ∉ pattern.toList)
    (hone : '?' ∉ pattern.toList) :
    (∀ path, Decides pattern path (BeginsLike pattern path)) ↔
      ¬ spelledStar <:+: pattern.toList := by
  simp only [decides_iff]
  have helements : (ofText pattern).elements =
      elementsFrom pattern.toList.length pattern.toList := by
    rw [ofText, spellStars_of_not_mem hstar]
  constructor
  · intro h hspelled
    -- The pattern matches a path that is too short to begin like it.
    have hshort := length_samples_lt (Nat.le_refl _) hspelled
    have hbegins := (h (String.ofList ((ofText pattern).elements.flatMap Element.sample))).1 (by
      rw [accepts, String.toList_ofList]
      exact acceptsFrom_sample _ _)
    have hlength := List.Forall₂.length_eq hbegins
    rw [String.toList_ofList, List.length_take, helements] at hlength
    omega
  · intro hspelled path
    have hopen : (ofText pattern).closed = false := by
      rw [← Bool.not_eq_true, closed_iff]
      exact fun hsuffix => hstar (hsuffix.subset (by simp))
    rw [accepts, hopen, helements, elementsFrom_literal (Nat.le_refl _) hstar hone hspelled,
      acceptsFrom_literal, BeginsLike]

theorem literal_iff_signs :
    '*' ∉ "Src/(a+b)$".toList ∧ '?' ∉ "Src/(a+b)$".toList ∧
      ((∀ path, Decides "Src/(a+b)$" path (BeginsLike "Src/(a+b)$" path)) ↔
        ¬ spelledStar <:+: "Src/(a+b)$".toList) :=
  ⟨by decide, by decide, literal_iff (by decide) (by decide)⟩

/-- A pattern without wildcards that matches a path that does not begin like it. -/
theorem not_literal_spelledStar :
    '*' ∉ "\x00DOUBLESTAR\x00".toList ∧ '?' ∉ "\x00DOUBLESTAR\x00".toList ∧
      Matches "\x00DOUBLESTAR\x00" "src/main.go" ∧
      ¬ BeginsLike "\x00DOUBLESTAR\x00" "src/main.go" := by
  refine ⟨by decide, by decide, matches_iff.2 (by decide), fun h => ?_⟩
  exact absurd (List.Forall₂.length_eq h) (by decide)

end SymbolSieve.Glob
