import Mathlib.Data.List.Chain
import SymbolSieve.Proofs.Glob.Pieces

/-!
# Stars and double stars

A double star should match whatever a star matches, and slashes on top of it.  But a star takes line
breaks and a double star does not, so a path that needs a star for a line break is lost when the
star is doubled.  That happens only where something else follows the line break: the line breaks at
the very end of a path are not needed, as what comes after the star can be found before them as
well.  Nothing is lost when the star is the last character of a pattern, either, not even in a
pattern that ends in `/*`, because it is not closed any more when its star is doubled.

## What is here

* `LoneStar`: a pattern cut at a star that is next to no other star.
* `BreaksLast`: a path in which only line breaks follow a line break.
* `covers_doubled`: what stays covered when a star is doubled.
* `outline`: a pattern for one text, which no other text of another length matches.
* `doubled_star_iff`: the paths for which doubling a star never loses a match.
-/

set_option autoImplicit false

namespace SymbolSieve.Glob

open Text

/-- The parts of a pattern without U+0000 before and behind a star that is next to no other star. -/
structure LoneStar (front back : String) : Prop where
  zero : '\x00' ∉ (front ++ back).toList
  before : front.toList.getLast? ≠ some '*'
  behind : back.toList.head? ≠ some '*'

/-- Only line breaks follow a line break of a path. -/
def BreaksLast (path : String) : Prop := path.toList.Pairwise fun c d => c = '\n' → d = '\n'

/-! ## Patterns with a star, and with the star doubled -/

variable {front back path : String}

theorem toList_star : (front ++ "*" ++ back).toList = front.toList ++ '*' :: back.toList := by
  simp

theorem toList_doubled :
    (front ++ "**" ++ back).toList = front.toList ++ '*' :: '*' :: back.toList := by
  simp

theorem LoneStar.elementsOf_star (h : LoneStar front back) :
    elementsOf (front ++ "*" ++ back).toList =
      elementsOf front.toList ++ .star :: elementsOf back.toList := by
  have hbehind : ∀ tail, back.toList ≠ '*' :: tail := fun tail htail =>
    h.behind (by rw [htail]; rfl)
  rw [toList_star, elementsOf_append fun hlast => absurd hlast h.before,
    elementsOf_cons fun tail _ => hbehind tail]
  rfl

theorem LoneStar.elementsOf_doubled (h : LoneStar front back) :
    elementsOf (front ++ "**" ++ back).toList =
      elementsOf front.toList ++ .doubleStar :: elementsOf back.toList := by
  rw [toList_doubled, elementsOf_append fun hlast => absurd hlast h.before, elementsOf]

theorem LoneStar.matches_star_iff (h : LoneStar front back) :
    Matches (front ++ "*" ++ back) path ↔ Covers (front ++ "*" ++ back) path :=
  matches_iff_covers (by simpa [toList_star] using h.zero)

theorem LoneStar.matches_doubled_iff (h : LoneStar front back) :
    Matches (front ++ "**" ++ back) path ↔ Covers (front ++ "**" ++ back) path :=
  matches_iff_covers (by simpa [toList_doubled] using h.zero)

/-- What makes a pattern with a doubled star closed stands behind that star. -/
theorem closed_of_doubled
    (hclosed : ['/', '*'] <:+ (front ++ "**" ++ back).toList) : ['/', '*'] <:+ back.toList := by
  rw [toList_doubled] at hclosed
  have htail : ['/', '*'] <:+ '*' :: '*' :: back.toList :=
    List.suffix_of_suffix_length_le hclosed (List.suffix_append _ _) (by simp)
  rcases List.suffix_cons_iff.1 htail with heq | htail
  · simp at heq
  rcases List.suffix_cons_iff.1 htail with heq | htail
  · simp at heq
  · exact htail

/-- What a closed pattern takes has a slash. -/
theorem slash_mem_of_splits {s taken : List Char} (hclosed : ['/', '*'] <:+ s)
    (h : Splits (elementsOf s) taken) : '/' ∈ taken := by
  obtain ⟨front, rfl⟩ := hclosed
  rw [elementsOf_slash_star] at h
  obtain ⟨start, rest, rfl, -, hrest⟩ := splits_append.1 h
  obtain ⟨back, rfl, -⟩ := splits_slash_star.1 hrest
  simp

/-! ## Doubling a star -/

/-- It is enough to look at the character next to a line break. -/
theorem breaksLast_iff : BreaksLast path ↔
    ∀ start d rest, path.toList = start ++ '\n' :: d :: rest → d = '\n' := by
  have : Trans (fun c d : Char => c = '\n' → d = '\n') (fun c d => c = '\n' → d = '\n')
      (fun c d => c = '\n' → d = '\n') := ⟨fun hcd hde hc => hde (hcd hc)⟩
  rw [BreaksLast, ← List.isChain_iff_pairwise, List.isChain_iff_forall_rel_of_append_cons_cons]
  constructor
  · exact fun h start d rest hsplit => h hsplit rfl
  · rintro h c d start rest hsplit rfl
    exact h start d rest hsplit

/-- Behind a line break, line breaks that come later might as well come at once. -/
theorem BreaksLast.prefix_of_append {start run behind rest : List Char} (h : BreaksLast path)
    (hpath : path.toList = start ++ '\n' :: (run ++ (behind ++ rest))) :
    (∀ c ∈ behind, c = '\n') ∧ behind <+: '\n' :: (run ++ (behind ++ rest)) := by
  rw [BreaksLast, hpath, List.pairwise_append, List.pairwise_cons] at h
  have hall : ∀ c ∈ '\n' :: (run ++ (behind ++ rest)), c = '\n' :=
    List.forall_mem_cons.2 ⟨rfl, fun c hc => h.2.1.1 c hc rfl⟩
  have hbehind : ∀ c ∈ behind, c = '\n' := fun c hc => hall c (by simp [hc])
  refine ⟨hbehind, ?_⟩
  rw [List.eq_replicate_of_mem hall]
  exact List.prefix_replicate_iff.2 ⟨by simp; omega, List.eq_replicate_of_mem hbehind⟩

/-- **What stays covered when a star is doubled.**  Line breaks that the star has taken are left to
what follows, which can only have taken line breaks then. -/
theorem covers_doubled (h : LoneStar front back) (hpath : back = "" ∨ BreaksLast path)
    (hcovers : Covers (front ++ "*" ++ back) path) : Covers (front ++ "**" ++ back) path := by
  obtain ⟨taken, ⟨rest, hrest⟩, hsplits, hwhole⟩ := hcovers
  rw [h.elementsOf_star] at hsplits
  obtain ⟨start, tail, rfl, hstart, htail⟩ := splits_append.1 hsplits
  obtain ⟨run, behind, rfl, hrun, hbehind⟩ := splits_cons.1 htail
  have hdoubled : ∀ {run' behind' : List Char}, '\n' ∉ run' →
      Splits (elementsOf back.toList) behind' →
      Splits (elementsOf (front ++ "**" ++ back).toList) (start ++ (run' ++ behind')) := by
    intro run' behind' hrun' hbehind'
    rw [h.elementsOf_doubled]
    exact splits_append.2 ⟨start, _, rfl, hstart,
      splits_cons.2 ⟨run', behind', rfl, hrun', hbehind'⟩⟩
  have hends : ['/', '*'] <:+ (front ++ "**" ++ back).toList → ['/', '*'] <:+ back.toList ∧
      ['/', '*'] <:+ (front ++ "*" ++ back).toList := fun hclosed => by
    have hback := closed_of_doubled hclosed
    rw [toList_star]
    exact ⟨hback, (hback.trans (List.suffix_cons _ _)).trans (List.suffix_append _ _)⟩
  rcases hpath with rfl | hpath
  · -- The double star need not take anything.
    refine ⟨start, ⟨run ++ behind ++ rest, by simpa using hrest⟩, ?_, fun hclosed => ?_⟩
    · simpa using hdoubled List.not_mem_nil (splits_nil.2 rfl)
    · exact absurd (hends hclosed).1 (by decide)
  by_cases hbreak : '\n' ∈ run
  · obtain ⟨run', run'', rfl, hrun'⟩ := List.eq_append_cons_of_mem hbreak
    have hlast : path.toList = start ++ run' ++ '\n' :: (run'' ++ (behind ++ rest)) := by
      simpa using hrest.symm
    obtain ⟨hbreaks, left, hleft⟩ := hpath.prefix_of_append hlast
    refine ⟨start ++ (run' ++ behind), ⟨left, ?_⟩, hdoubled hrun' hbehind, fun hclosed => ?_⟩
    · rw [hlast, ← hleft]
      simp
    · exact absurd (hbreaks '/' (slash_mem_of_splits (hends hclosed).1 hbehind)) (by decide)
  · exact ⟨start ++ (run ++ behind), ⟨rest, hrest⟩, hdoubled hbreak hbehind,
      fun hclosed => hwhole (hends hclosed).2⟩

/-! ## A path that is lost -/

/-- A pattern that has a question mark for each character of a text but its line breaks, which stand
for themselves. -/
def outline (s : List Char) : List Char := s.map fun c => if c = '\n' then '\n' else '?'

theorem eq_or_of_mem_outline {s : List Char} {c : Char} (h : c ∈ outline s) :
    c = '\n' ∨ c = '?' := by
  obtain ⟨d, -, rfl⟩ := List.mem_map.1 h
  split
  · exact .inl rfl
  · exact .inr rfl

theorem loneStar_outline (s : List Char) : LoneStar (String.ofList (outline s)) "?" := by
  refine ⟨fun hzero => ?_, fun hlast => ?_, by decide⟩
  · have hmem : '\x00' ∈ outline s := by simpa using hzero
    rcases eq_or_of_mem_outline hmem with h | h <;> exact absurd h (by decide)
  · rw [String.toList_ofList] at hlast
    rcases eq_or_of_mem_outline (List.mem_of_getLast? hlast) with h | h <;>
      exact absurd h (by decide)

/-- The first element of an outline takes the first character of the text, and single characters
only. -/
theorem elementsOf_outline_cons (c : Char) (s : List Char) :
    ∃ e, elementsOf (outline (c :: s)) = e :: elementsOf (outline s) ∧ e.Takes [c] ∧
      ∀ piece, e.Takes piece → piece.length = 1 := by
  by_cases hc : c = '\n'
  · subst hc
    exact ⟨.exactly '\n', rfl, ⟨'\n', rfl, sameLetter_refl _⟩,
      fun _ ⟨d, hpiece, _⟩ => by rw [hpiece]; rfl⟩
  · have hone : outline (c :: s) = '?' :: outline s := by simp [outline, hc]
    exact ⟨.one, by rw [hone]; rfl, ⟨c, rfl, hc⟩, fun _ ⟨d, hpiece, _⟩ => by rw [hpiece]; rfl⟩

/-- The outline of a text takes the text. -/
theorem splits_outline (s : List Char) : Splits (elementsOf (outline s)) s := by
  induction s with
  | nil => exact splits_nil.2 rfl
  | cons c s ih =>
    obtain ⟨e, he, htakes, -⟩ := elementsOf_outline_cons c s
    rw [he]
    exact splits_cons.2 ⟨[c], s, rfl, htakes, ih⟩

/-- The outline of a text takes only texts of its length. -/
theorem length_eq_of_splits_outline {s taken : List Char}
    (h : Splits (elementsOf (outline s)) taken) : taken.length = s.length := by
  induction s generalizing taken with
  | nil => rw [splits_nil.1 h]
  | cons c s ih =>
    obtain ⟨e, he, -, hone⟩ := elementsOf_outline_cons c s
    rw [he] at h
    obtain ⟨piece, rest, rfl, htakes, hrest⟩ := splits_cons.1 h
    rw [List.length_append, hone piece htakes, ih hrest, List.length_cons, Nat.add_comm]

/-- **A path with a character behind a line break is lost** when the star that takes the line break
is doubled. -/
theorem lost_of_break {start rest : List Char} {d : Char} (hd : d ≠ '\n')
    (hpath : path.toList = start ++ '\n' :: d :: rest) :
    Covers (String.ofList (outline start) ++ "*" ++ "?") path ∧
      ¬ Covers (String.ofList (outline start) ++ "**" ++ "?") path := by
  have hlone := loneStar_outline start
  constructor
  · refine ⟨start ++ ['\n', d], ⟨rest, by simp [hpath]⟩, ?_, fun hclosed => ?_⟩
    · rw [hlone.elementsOf_star, String.toList_ofList]
      exact splits_append.2 ⟨start, ['\n', d], rfl, splits_outline start,
        splits_cons.2 ⟨['\n'], [d], rfl, by simp [Element.Takes], splits_singleton.2 ⟨d, rfl, hd⟩⟩⟩
    · rw [toList_star] at hclosed
      have hmark := hclosed.getLast (by simp)
      simp at hmark
  · rintro ⟨taken, ⟨left, hleft⟩, hsplits, -⟩
    rw [hlone.elementsOf_doubled, String.toList_ofList] at hsplits
    obtain ⟨start', tail, rfl, hstart', htail⟩ := splits_append.1 hsplits
    obtain ⟨run, last, rfl, hrun, hlast⟩ := splits_cons.1 htail
    obtain ⟨e, rfl, he⟩ := splits_singleton.1 hlast
    -- The double star has to take the line break, or to leave it to the question mark.
    have hbehind : run ++ (e :: left) = '\n' :: d :: rest := by
      have hwhole : start' ++ (run ++ e :: left) = start ++ '\n' :: d :: rest := by
        simpa [hpath] using hleft
      exact (List.append_inj hwhole (length_eq_of_splits_outline hstart')).2
    cases run with
    | nil => exact he (List.cons.inj hbehind).1
    | cons c run => exact hrun (by simp [(List.cons.inj hbehind).1])

/-- **Doubling a star never loses a path exactly if only line breaks follow its line breaks.**  A
star at the end of a pattern can be doubled without losing any path. -/
theorem doubled_star_iff (path : String) :
    ((∀ front back, LoneStar front back →
        Matches (front ++ "*" ++ back) path → Matches (front ++ "**" ++ back) path) ↔
      BreaksLast path) ∧
    ∀ front, LoneStar front "" → Matches (front ++ "*") path → Matches (front ++ "**") path := by
  refine ⟨⟨fun hlaw => breaksLast_iff.2 fun start d rest hsplit => ?_,
    fun hpath front back h hstar => ?_⟩, fun front h hstar => ?_⟩
  · by_contra hd
    have hlone := loneStar_outline start
    obtain ⟨hcovers, hlost⟩ := lost_of_break hd hsplit
    have hstar := hlone.matches_star_iff.2 hcovers
    exact hlost (hlone.matches_doubled_iff.1 (hlaw _ _ hlone hstar))
  · exact h.matches_doubled_iff.2 (covers_doubled h (.inr hpath) (h.matches_star_iff.1 hstar))
  · have hnothing : ∀ s : String, s ++ "" = s := fun s => String.append_empty
    have hcovers := h.matches_star_iff.1 (by rwa [hnothing])
    rw [← hnothing (front ++ "**")]
    exact h.matches_doubled_iff.2 (covers_doubled h (.inl rfl) hcovers)

theorem doubled_star_iff_sources :
    LoneStar "src/" ".g" ∧ BreaksLast "src/a.go\n" ∧ Matches ("src/" ++ "**" ++ ".g") "src/a.go\n" ∧
      LoneStar "src/" "" ∧ Matches ("src/" ++ "**") "src/a\nb" := by
  have hlone : LoneStar "src/" ".g" := ⟨by decide, by decide, by decide⟩
  have htrailing : LoneStar "src/" "" := ⟨by decide, by decide, by decide⟩
  have hpath : BreaksLast "src/a.go\n" := by rw [BreaksLast]; decide
  exact ⟨hlone, hpath,
    (doubled_star_iff "src/a.go\n").1.2 hpath "src/" ".g" hlone (matches_iff.2 (by decide)),
    htrailing,
    (doubled_star_iff "src/a\nb").2 "src/" htrailing (matches_iff.2 (by decide))⟩

/-- A path that a star matches across a line break, and that the doubled star does not match. -/
theorem doubled_star_loses_break :
    LoneStar "a" "b" ∧ Matches ("a" ++ "*" ++ "b") "a\nb" ∧
      ¬ Matches ("a" ++ "**" ++ "b") "a\nb" :=
  ⟨⟨by decide, by decide, by decide⟩, matches_iff.2 (by decide),
    fun h => absurd (matches_iff.1 h) (by decide)⟩

end SymbolSieve.Glob
