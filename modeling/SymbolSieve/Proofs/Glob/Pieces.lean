import Mathlib.Data.List.Forall2
import SymbolSieve.Proofs.Glob.Expression
import SymbolSieve.Proofs.Selection.Traits

/-!
# What patterns match

A pattern is read from the left: two stars are a double star, a star that is left over is a star, a
question mark is one character, and everything else stands for itself.  It matches a path if the
beginning of the path can be cut into pieces, one for each element of the pattern, such that every
element takes its piece.  A pattern that ends in `/*` has to use up the whole path.

The matcher does not read patterns this way.  It exchanges parts of the text kind by kind and
matches by way of the expression that comes out.  For patterns without U+0000, which the exchange
uses as a mark of its own, the result is the same.

## What is here

* `elementsOf`: the elements of a pattern, read from the left.
* `Element.Takes`, `Splits`, `Covers`: pieces of a path, and paths that a pattern covers.
* `elements_ofText`: the elements that the matcher uses.
* `acceptsFrom_iff`: matching finds the pieces if there are any.
* `Matches`, `Decides`: what the test of a path says; it has a result for every pattern.
* `passesGlob_iff_covers`: a pattern can always be compiled, and matches the paths that it covers.
-/

set_option autoImplicit false

namespace SymbolSieve.Glob

open Text

/-! ## Patterns and the paths that they cover -/

/-- The elements of a pattern, read from the left. -/
def elementsOf : List Char → List Element
  | '*' :: '*' :: rest => .doubleStar :: elementsOf rest
  | '*' :: rest => .star :: elementsOf rest
  | '?' :: rest => .one :: elementsOf rest
  | c :: rest => .exactly c :: elementsOf rest
  | [] => []

/-- Whether an element takes a piece of a path. -/
def Element.Takes : Element → List Char → Prop
  | .exactly c, piece => ∃ d, piece = [d] ∧ sameLetter c d = true
  | .one, piece => ∃ d, piece = [d] ∧ d ≠ '\n'
  | .star, piece => '/' ∉ piece
  | .doubleStar, piece => '\n' ∉ piece

/-- A text is made of pieces that the elements take, one for each element, in order. -/
def Splits (es : List Element) (taken : List Char) : Prop :=
  ∃ pieces : List (List Char), pieces.flatten = taken ∧ List.Forall₂ Element.Takes es pieces

/-- The elements of a pattern take the beginning of a path, and all of it if the pattern ends in
`/*`. -/
def Covers (pattern path : String) : Prop :=
  ∃ taken, taken <+: path.toList ∧ Splits (elementsOf pattern.toList) taken ∧
    (['/', '*'] <:+ pattern.toList → taken = path.toList)

/-! ## The elements that the matcher uses -/

theorem elementsOf_cons {c : Char} {rest : List Char} (h : ∀ tail, c = '*' → rest ≠ '*' :: tail) :
    elementsOf (c :: rest) = .ofChar c :: elementsOf rest := by
  rw [Element.ofChar]
  split_ifs with hstar hone
  · subst hstar
    rw [elementsOf]
    exact fun tail htail => h tail rfl htail
  · subst hone
    rfl
  · rw [elementsOf]
    · exact fun tail hc => absurd hc hstar
    · exact hstar
    · exact hone

/-- A pattern is read part by part, unless it is cut between two stars. -/
theorem elementsOf_append {s t : List Char} (h : s.getLast? = some '*' → t.head? ≠ some '*') :
    elementsOf (s ++ t) = elementsOf s ++ elementsOf t := by
  induction s using spellStars.induct with
  | case1 s ih =>
    refine congrArg (Element.doubleStar :: ·) (ih fun hlast => h ?_)
    simp [List.getLast?_cons, hlast]
  | case2 c s hsingle ih =>
    have hsingle' : ∀ tail, c = '*' → s ++ t ≠ '*' :: tail := by
      intro tail hc htail
      cases s with
      | nil => exact h (by simp [hc]) (by simp [show t = '*' :: tail from htail])
      | cons d s => exact hsingle s hc (by rw [(List.cons.inj htail).1])
    have hrest : s.getLast? = some '*' → t.head? ≠ some '*' := by
      refine fun hlast => h ?_
      simp [List.getLast?_cons, hlast]
    rw [List.cons_append, elementsOf_cons hsingle', elementsOf_cons hsingle, ih hrest,
      List.cons_append]
  | case3 => rfl

theorem elementsFrom_append_spelledStar (fuel : Nat) (s : List Char) :
    elementsFrom (fuel + 1) (spelledStar ++ s) = .doubleStar :: elementsFrom fuel s := by
  have hstar : spelledStar.isPrefixOf (spelledStar ++ s) = true := by simp
  have hdrop : (spelledStar ++ s).drop spelledStar.length = s := List.drop_left
  have hrest : elementsFrom (fuel + 1) (spelledStar ++ s) =
      .doubleStar :: elementsFrom fuel ((spelledStar ++ s).drop spelledStar.length) :=
    if_pos hstar
  rw [hrest, hdrop]

theorem elementsFrom_cons {c : Char} (hc : c ≠ '\x00') (fuel : Nat) (s : List Char) :
    elementsFrom (fuel + 1) (c :: s) = .ofChar c :: elementsFrom fuel s := by
  have hstar : ¬ spelledStar.isPrefixOf (c :: s) = true := by
    simp [spelledStar, hc.symm]
  rw [elementsFrom, if_neg hstar]

/-- A pattern without the mark of double stars is read from the left. -/
theorem elementsFrom_spellStars {s : List Char} (hs : '\x00' ∉ s) {fuel : Nat}
    (hfuel : (spellStars s).length ≤ fuel) : elementsFrom fuel (spellStars s) = elementsOf s := by
  fun_induction spellStars s generalizing fuel with
  | case1 rest ih =>
    have hlength : spelledStar.length = 12 := rfl
    rw [List.length_append] at hfuel
    obtain ⟨fuel, rfl⟩ : ∃ n, fuel = n + 1 := ⟨fuel - 1, by omega⟩
    have hrest : '\x00' ∉ rest := fun h => hs (by simp [h])
    rw [elementsFrom_append_spelledStar, ih hrest (by omega), elementsOf]
  | case2 c rest hsingle ih =>
    obtain ⟨fuel, rfl⟩ : ∃ n, fuel = n + 1 := ⟨fuel - 1, by simp at hfuel; omega⟩
    have hc : c ≠ '\x00' := by rintro rfl; exact hs (by simp)
    rw [elementsFrom_cons hc, ih (fun h => hs (by simp [h])) (by simpa using hfuel),
      elementsOf_cons]
    exact fun tail hstar htail => hsingle tail hstar htail
  | case3 => cases fuel <;> rfl

theorem elements_ofText {s : String} (hs : '\x00' ∉ s.toList) :
    (ofText s).elements = elementsOf s.toList :=
  elementsFrom_spellStars hs (Nat.le_refl _)

/-! ## Pieces of paths -/

theorem splits_nil {taken : List Char} : Splits [] taken ↔ taken = [] := by
  constructor
  · rintro ⟨pieces, rfl, hpieces⟩
    cases hpieces
    rfl
  · rintro rfl
    exact ⟨[], rfl, .nil⟩

theorem splits_cons {e : Element} {es : List Element} {taken : List Char} :
    Splits (e :: es) taken ↔
      ∃ piece rest, taken = piece ++ rest ∧ e.Takes piece ∧ Splits es rest := by
  constructor
  · rintro ⟨pieces, rfl, hpieces⟩
    cases hpieces with
    | cons htakes hrest => exact ⟨_, _, rfl, htakes, _, rfl, hrest⟩
  · rintro ⟨piece, rest, rfl, htakes, pieces, rfl, hpieces⟩
    exact ⟨piece :: pieces, rfl, .cons htakes hpieces⟩

theorem splits_singleton {e : Element} {taken : List Char} : Splits [e] taken ↔ e.Takes taken := by
  simp [splits_cons, splits_nil]

/-- The pieces of elements are those of the first and those of the others. -/
theorem splits_append {es fs : List Element} {taken : List Char} :
    Splits (es ++ fs) taken ↔
      ∃ piece rest, taken = piece ++ rest ∧ Splits es piece ∧ Splits fs rest := by
  induction es generalizing taken with
  | nil => simp [splits_nil]
  | cons e es ih =>
    rw [List.cons_append, splits_cons]
    constructor
    · rintro ⟨first, rest, rfl, htakes, hrest⟩
      obtain ⟨front, back, rfl, hfront, hback⟩ := ih.1 hrest
      exact ⟨first ++ front, back, (List.append_assoc _ _ _).symm,
        splits_cons.2 ⟨first, front, rfl, htakes, hfront⟩, hback⟩
    · rintro ⟨piece, back, rfl, hpiece, hback⟩
      obtain ⟨first, front, rfl, htakes, hfront⟩ := splits_cons.1 hpiece
      exact ⟨first, front ++ back, List.append_assoc _ _ _, htakes,
        ih.2 ⟨front, back, rfl, hfront, hback⟩⟩

/-- A run without a character is taken away. -/
theorem span_ne_iff {d : Char} {passes : List Char → Bool} {s : List Char} :
    span (· != d) passes s = true ↔
      ∃ run rest, s = run ++ rest ∧ d ∉ run ∧ passes rest = true := by
  induction s with
  | nil => simp [span, and_assoc]
  | cons c s ih =>
    rw [span, Bool.or_eq_true, Bool.and_eq_true, ih, bne_iff_ne]
    constructor
    · rintro (h | ⟨hc, run, rest, rfl, hrun, hpasses⟩)
      · exact ⟨[], c :: s, rfl, List.not_mem_nil, h⟩
      · exact ⟨c :: run, rest, rfl, List.not_mem_cons_of_ne_of_not_mem hc.symm hrun, hpasses⟩
    · rintro ⟨run, rest, hs, hrun, hpasses⟩
      cases run with
      | nil => exact .inl (by rwa [hs])
      | cons c' run =>
        obtain ⟨rfl, rfl⟩ := List.cons.inj hs
        exact .inr ⟨(List.ne_of_not_mem_cons hrun).symm, run, rest, rfl,
          List.not_mem_of_not_mem_cons hrun, hpasses⟩

/-- One element is matched by taking a piece away. -/
theorem acceptsFrom_cons {closed : Bool} {e : Element} {es : List Element} {path : List Char} :
    acceptsFrom closed (e :: es) path = true ↔
      ∃ piece rest, path = piece ++ rest ∧ e.Takes piece ∧ acceptsFrom closed es rest = true := by
  cases e with
  | exactly c =>
    cases path with
    | nil => simp [acceptsFrom, Element.Takes]
    | cons d rest =>
      simp only [acceptsFrom, Bool.and_eq_true, Element.Takes]
      constructor
      · rintro ⟨hsame, hrest⟩
        exact ⟨[d], rest, rfl, ⟨d, rfl, hsame⟩, hrest⟩
      · rintro ⟨-, rest, hpath, ⟨d, rfl, hsame⟩, hrest⟩
        obtain ⟨rfl, rfl⟩ := List.cons.inj hpath
        exact ⟨hsame, hrest⟩
  | one =>
    cases path with
    | nil => simp [acceptsFrom, Element.Takes]
    | cons d rest =>
      simp only [acceptsFrom, Bool.and_eq_true, Element.Takes, bne_iff_ne]
      constructor
      · rintro ⟨hd, hrest⟩
        exact ⟨[d], rest, rfl, ⟨d, rfl, hd⟩, hrest⟩
      · rintro ⟨-, rest, hpath, ⟨d, rfl, hd⟩, hrest⟩
        obtain ⟨rfl, rfl⟩ := List.cons.inj hpath
        exact ⟨hd, hrest⟩
  | star => exact span_ne_iff
  | doubleStar => exact span_ne_iff

/-- **Matching finds the pieces** of the beginning of a path if there are any. -/
theorem acceptsFrom_iff {closed : Bool} {es : List Element} {path : List Char} :
    acceptsFrom closed es path = true ↔
      ∃ taken rest, path = taken ++ rest ∧ Splits es taken ∧ mayEnd closed rest = true := by
  induction es generalizing path with
  | nil => simp [acceptsFrom, splits_nil]
  | cons e es ih =>
    rw [acceptsFrom_cons]
    constructor
    · rintro ⟨piece, rest, rfl, htakes, haccepts⟩
      obtain ⟨taken, left, rfl, hsplits, hend⟩ := ih.1 haccepts
      exact ⟨piece ++ taken, left, (List.append_assoc _ _ _).symm,
        splits_cons.2 ⟨piece, taken, rfl, htakes, hsplits⟩, hend⟩
    · rintro ⟨taken, left, rfl, hsplits, hend⟩
      obtain ⟨piece, rest, rfl, htakes, hrest⟩ := splits_cons.1 hsplits
      exact ⟨piece, rest ++ left, List.append_assoc _ _ _, htakes,
        ih.2 ⟨rest, left, rfl, hrest, hend⟩⟩

/-! ## Patterns that end in `/*` -/

/-- A star at the end takes one more character if it is no slash. -/
theorem Splits.concat {es : List Element} {taken : List Char} (h : Splits (es ++ [.star]) taken)
    {c : Char} (hc : c ≠ '/') : Splits (es ++ [.star]) (taken ++ [c]) := by
  obtain ⟨front, run, rfl, hfront, hrun⟩ := splits_append.1 h
  rw [splits_singleton] at hrun
  refine splits_append.2 ⟨front, run ++ [c], List.append_assoc _ _ _, hfront, ?_⟩
  rw [splits_singleton]
  simpa [Element.Takes, hc.symm] using hrun

/-- The last two elements of a closed pattern. -/
theorem elementsOf_slash_star (s : List Char) :
    elementsOf (s ++ ['/', '*']) = elementsOf s ++ [.exactly '/', .star] := by
  rw [elementsOf_append (by simp)]
  rfl

/-- A slash and a star take a slash and what follows it up to the next one. -/
theorem splits_slash_star {taken : List Char} :
    Splits [.exactly '/', .star] taken ↔ ∃ back, taken = '/' :: back ∧ '/' ∉ back := by
  have hslash : ∀ d, sameLetter '/' d = true ↔ d = '/' :=
    fun d => sameLetter_iff_of_lt (by decide) (by decide)
  simp only [splits_cons, splits_nil, Element.Takes, hslash]
  constructor
  · rintro ⟨-, rest, rfl, ⟨d, rfl, rfl⟩, back, -, rfl, hback, rfl⟩
    exact ⟨back, by simp, hback⟩
  · rintro ⟨back, rfl, hback⟩
    exact ⟨['/'], back, rfl, ⟨'/', rfl, rfl⟩, back, [], by simp, hback, rfl⟩

theorem exists_elementsOf_eq_concat {s : List Char} (h : ['/', '*'] <:+ s) :
    ∃ es, elementsOf s = es ++ [.star] := by
  obtain ⟨front, rfl⟩ := h
  exact ⟨elementsOf front ++ [.exactly '/'], by simp [elementsOf_slash_star]⟩

theorem mayEnd_iff {closed : Bool} {rest : List Char} :
    mayEnd closed rest = true ↔ (closed = true → rest = [] ∨ rest = ['\n']) := by
  cases closed <;> simp [mayEnd]

theorem closed_iff {pattern : String} :
    (ofText pattern).closed = true ↔ ['/', '*'] <:+ pattern.toList :=
  List.isSuffixOf_iff_suffix

/-- **A pattern matches the paths that it covers.**  The line break that may be left over at the end
of a path is taken by the star that the pattern ends with. -/
theorem accepts_iff_covers {pattern : String} (h : '\x00' ∉ pattern.toList) (path : String) :
    (ofText pattern).accepts path = true ↔ Covers pattern path := by
  rw [accepts, acceptsFrom_iff, elements_ofText h, Covers]
  constructor
  · rintro ⟨taken, rest, hpath, hsplits, hend⟩
    by_cases hslash : ['/', '*'] <:+ pattern.toList
    -- What is left over is nothing, or a line break, which the star at the end can take as well.
    · refine ⟨path.toList, List.prefix_rfl, ?_, fun _ => rfl⟩
      rw [mayEnd_iff, closed_iff] at hend
      obtain rfl | rfl := hend hslash
      · rwa [hpath, List.append_nil]
      · obtain ⟨es, hes⟩ := exists_elementsOf_eq_concat hslash
        rw [hes] at hsplits ⊢
        rw [hpath]
        exact hsplits.concat (by decide)
    · exact ⟨taken, ⟨rest, hpath.symm⟩, hsplits, fun h => absurd h hslash⟩
  · rintro ⟨taken, ⟨rest, hpath⟩, hsplits, hwhole⟩
    refine ⟨taken, rest, hpath.symm, hsplits, mayEnd_iff.2 fun h => .inl ?_⟩
    have hnone : taken ++ rest = taken := by rw [hpath, hwhole (closed_iff.1 h)]
    simpa using hnone

/-! ## The test of a path -/

/-- A path passes the test of a pattern. -/
def Matches (pattern path : String) : Prop :=
  Selection.passesGlob (.text pattern) (.text path) = .ok true

/-- The test of a path has a result, which says whether something is the case. -/
def Decides (pattern path : String) (p : Prop) : Prop :=
  ∃ answer, Selection.passesGlob (.text pattern) (.text path) = .ok answer ∧ (answer = true ↔ p)

theorem passesGlob_text (pattern path : String) :
    Selection.passesGlob (.text pattern) (.text path) = .ok ((ofText pattern).accepts path) := by
  simp only [Selection.passesGlob, Record.orElse_text, compiled_eq, Except.map]

theorem matches_iff {pattern path : String} :
    Matches pattern path ↔ (ofText pattern).accepts path = true := by
  rw [Matches, passesGlob_text, Except.ok.injEq]

theorem matches_iff_covers {pattern path : String} (h : '\x00' ∉ pattern.toList) :
    Matches pattern path ↔ Covers pattern path :=
  matches_iff.trans (accepts_iff_covers h path)

theorem decides_iff {pattern path : String} {p : Prop} :
    Decides pattern path p ↔ ((ofText pattern).accepts path = true ↔ p) := by
  simp only [Decides, passesGlob_text, Except.ok.injEq, exists_eq_left']

/-- **A pattern without U+0000 can be compiled, and is then found to match exactly the paths that it
covers**, a path that is missing being an empty one. -/
theorem passesGlob_iff_covers {pattern : String} (h : '\x00' ∉ pattern.toList) :
    (∃ g, compiled pattern = .ok g) ∧
      ∀ path : Option String, ∃ answer,
        Selection.passesGlob (.text pattern) ((path.map .text).getD .null) = .ok answer ∧
          (answer = true ↔ Covers pattern (path.getD "")) := by
  refine ⟨⟨_, compiled_eq pattern⟩, fun path => ⟨(ofText pattern).accepts (path.getD ""), ?_,
    accepts_iff_covers h _⟩⟩
  have hpath : ((path.map Value.text).getD .null).orElse (.text "") = .text (path.getD "") := by
    cases path with
    | none => rfl
    | some path => exact Record.orElse_text path
  simp only [Selection.passesGlob, hpath, compiled_eq, Except.map]

example : (ofText "SRC\\?***/*").accepts "src\\tracé/ſ/loop.c\n" = true := by decide

example : (ofText "SRC\\?***/*").accepts "src\\" = false := by decide

theorem passesGlob_odd_pattern :
    '\x00' ∉ "SRC\\?***/*".toList ∧
      (∃ g, compiled "SRC\\?***/*" = .ok g) ∧
      ∀ path : Option String, ∃ answer,
        Selection.passesGlob (.text "SRC\\?***/*") ((path.map .text).getD .null) = .ok answer ∧
          (answer = true ↔ Covers "SRC\\?***/*" (path.getD "")) :=
  ⟨by decide, passesGlob_iff_covers (by decide)⟩

end SymbolSieve.Glob
