import Mathlib.Tactic.SplitIfs
import SymbolSieve.Glob.Expression
import SymbolSieve.Proofs.Glob

/-!
# Patterns by way of their expressions

The expression of a pattern is made by exchanging parts of a text, one kind after the other.  What
one step puts in is left alone by the steps after it: a backslash never comes before a star that
was put in, the star of `[^/]*` is not taken for one of the pattern, and the point of `.*` is not
taken for a question mark.  So every pattern has an expression that can be read, and the expression
says what the pattern says.

## What is here

* `Element.written`: the form of an element in expressions; `Element.drafted` is the form that it
  has while question marks are still there.
* `replaced_doubleStars`, `replaced_stars`, `replaced_spelledStars`, `replaced_questions`: what each
  step makes of the text.
* `expression_eq`: the expression of a pattern is made of its elements.
* `compiled_eq`: reading it gives the elements back, so a pattern always has an expression.
-/

set_option autoImplicit false

namespace SymbolSieve.Glob

open Text

/-! ## The elements of a pattern -/

/-- The form of an element in expressions. -/
def Element.written : Element → List Char
  | .exactly c => escaped c
  | .one => ['.']
  | .star => "[^/]*".toList
  | .doubleStar => ".*".toList

/-- The form of an element before question marks are exchanged. -/
def Element.drafted : Element → List Char
  | .one => ['?']
  | e => e.written

/-- An element that does not stand for a wildcard as such. -/
def Element.IsDrawn : Element → Prop
  | .exactly c => c ≠ '*' ∧ c ≠ '?'
  | _ => True

theorem isDrawn_ofChar (c : Char) : (Element.ofChar c).IsDrawn := by
  rw [Element.ofChar]
  split_ifs with hstar hone
  · trivial
  · trivial
  · exact ⟨hstar, hone⟩

/-- Wildcards as such are never elements of a pattern. -/
theorem isDrawn_of_mem_elementsFrom {fuel : Nat} {s : List Char} {e : Element}
    (h : e ∈ elementsFrom fuel s) : e.IsDrawn := by
  fun_induction elementsFrom fuel s with
  | case1 => cases h
  | case2 => cases h
  | case3 fuel c rest _ ih =>
    rcases List.mem_cons.1 h with rfl | h
    · trivial
    · exact ih h
  | case4 fuel c rest _ ih =>
    rcases List.mem_cons.1 h with rfl | h
    · exact isDrawn_ofChar c
    · exact ih h

/-! ## Escaping -/

theorem escaped_of_not_mem {c : Char} (h : c ∉ foreignSigns) : escaped c = [c] := by
  simp [escaped, h]

theorem escaped_of_mem {c : Char} (h : c ∈ foreignSigns) : escaped c = ['\\', c] := by
  simp [escaped, h]

/-- A character that is no sign, and no backslash, comes only from itself. -/
theorem mem_escaped {c d : Char} (hc : c ∉ foreignSigns) : c ∈ escaped d ↔ c = d := by
  have hslash : c ≠ '\\' := by rintro rfl; exact hc (by decide)
  by_cases hd : d ∈ foreignSigns
  · simp [escaped_of_mem hd, hslash]
  · simp [escaped_of_not_mem hd]

theorem star_not_mem_foreignSigns : '*' ∉ foreignSigns := by decide

theorem question_not_mem_foreignSigns : '?' ∉ foreignSigns := by decide

theorem not_mem_foreignSigns_of_mem_spelledStar {c : Char} (h : c ∈ spelledStar) :
    c ∉ foreignSigns := by
  have hall : spelledStar.all (fun c => !foreignSigns.contains c) = true := by decide
  simpa using List.all_eq_true.1 hall c h

/-- Nothing is escaped in a spelled double star. -/
theorem flatMap_escaped_spelledStar : spelledStar.flatMap escaped = spelledStar := by decide

/-! ## Exchanging stars -/

/-- A pattern that does not begin with a star does not do so after escaping, either. -/
theorem head?_flatMap_escaped {s : List Char} (h : s.head? ≠ some '*') :
    (s.flatMap escaped).head? ≠ some '*' := by
  cases s with
  | nil => simp
  | cons c s =>
    have hc : c ≠ '*' := by simpa using h
    by_cases hsign : c ∈ foreignSigns
    · simp [escaped_of_mem hsign]
    · simpa [escaped_of_not_mem hsign] using hc

/-- Double stars are spelled out, with everything else escaped. -/
theorem replaced_doubleStars (s : List Char) :
    replaced ['*', '*'] spelledStar (s.flatMap escaped) = (spellStars s).flatMap escaped := by
  fun_induction spellStars s with
  | case1 rest ih =>
    have hstars : ('*' :: '*' :: rest).flatMap escaped = ['*', '*'] ++ rest.flatMap escaped := rfl
    rw [hstars, replaced_append_self (by simp), ih, List.flatMap_append,
      flatMap_escaped_spelledStar]
  | case2 c rest hsingle ih =>
    rw [List.flatMap_cons, List.flatMap_cons, ← ih]
    by_cases hc : c = '*'
    · subst hc
      have hrest : rest.head? ≠ some '*' := by
        intro hhead
        obtain ⟨rest', rfl⟩ := List.head?_eq_some_iff.1 hhead
        exact hsingle rest' rfl rfl
      have hnot : ¬ ['*', '*'] <+: '*' :: rest.flatMap escaped := by
        rw [List.cons_prefix_cons, not_and]
        rintro - ⟨tail, htail⟩
        exact head?_flatMap_escaped hrest (by rw [← htail]; rfl)
      exact replaced_cons spelledStar hnot
    · exact replaced_append_of_not_mem
        (by rw [mem_escaped star_not_mem_foreignSigns]; exact fun h => hc h.symm) ['*'] spelledStar _
  | case3 => rfl

/-- What a character of a pattern has become when single stars have been exchanged. -/
def inSegments (c : Char) : List Char := if c = '*' then "[^/]*".toList else escaped c

/-- Single stars are exchanged, and nothing else is. -/
theorem replaced_stars (s : List Char) :
    replaced ['*'] "[^/]*".toList (s.flatMap escaped) = s.flatMap inSegments := by
  refine replaced_flatMap fun c _ => ?_
  by_cases hc : c = '*'
  · subst hc
    exact .inl ⟨rfl, rfl⟩
  · refine .inr ⟨?_, by rw [inSegments, if_neg hc]⟩
    rw [mem_escaped star_not_mem_foreignSigns]
    exact fun h => hc h.symm

/-! ## Exchanging spelled double stars -/

/-- A character stays as it is, or is not part of a spelled double star and has become something
that does not begin like a part of one. -/
theorem inSegments_eq_or (d : Char) : inSegments d = [d] ∨
    d ∉ spelledStar ∧ ∃ c tail, inSegments d = c :: tail ∧ c ∉ spelledStar := by
  by_cases hstar : d = '*'
  · subst hstar
    exact .inr ⟨by decide, '[', _, rfl, by decide⟩
  · rw [inSegments, if_neg hstar]
    by_cases hsign : d ∈ foreignSigns
    · exact .inr ⟨fun h => not_mem_foreignSigns_of_mem_spelledStar h hsign, '\\', [d],
        escaped_of_mem hsign, by decide⟩
    · exact .inl (escaped_of_not_mem hsign)

theorem zero_mem_inSegments {d : Char} (h : '\x00' ∈ inSegments d) : d = '\x00' := by
  by_cases hstar : d = '*'
  · subst hstar
    exact absurd h (by decide)
  · rw [inSegments, if_neg hstar] at h
    exact ((mem_escaped (by decide)).1 h).symm

/-- A part of a spelled double star is found where it was before. -/
theorem prefix_flatMap_inSegments {l : List Char} (hl : ∀ c ∈ l, c ∈ spelledStar) (s : List Char) :
    l <+: s.flatMap inSegments ↔ l <+: s := by
  induction l generalizing s with
  | nil => simp
  | cons c l ih =>
    have hc : c ∈ spelledStar := hl c (by simp)
    cases s with
    | nil => simp
    | cons d s =>
      rw [List.flatMap_cons]
      rcases inSegments_eq_or d with hself | ⟨hd, e, tail, hother, he⟩
      · rw [hself, List.singleton_append, List.cons_prefix_cons, List.cons_prefix_cons,
          ih fun b hb => hl b (by simp [hb])]
      · rw [hother, List.cons_append, List.cons_prefix_cons, List.cons_prefix_cons]
        have hne : c ≠ e := by rintro rfl; exact he hc
        have hne' : c ≠ d := by rintro rfl; exact hd hc
        simp [hne, hne']

theorem drafted_ofChar (c : Char) : (Element.ofChar c).drafted = inSegments c := by
  rw [Element.ofChar, inSegments]
  split_ifs with hstar hone
  · rfl
  · subst hone
    rfl
  · rfl

/-- Spelled double stars are exchanged.  All elements but question marks are then in their final
form. -/
theorem replaced_spelledStars {fuel : Nat} {s : List Char} (hfuel : s.length ≤ fuel) :
    replaced spelledStar ".*".toList (s.flatMap inSegments) =
      (elementsFrom fuel s).flatMap Element.drafted := by
  fun_induction elementsFrom fuel s with
  | case1 s =>
    rw [List.eq_nil_of_length_eq_zero (Nat.le_zero.1 hfuel)]
    rfl
  | case2 => rfl
  | case3 fuel c rest hstar ih =>
    obtain ⟨tail, htail⟩ := List.isPrefixOf_iff_prefix.1 hstar
    have hdrop : (c :: rest).drop spelledStar.length = tail := by rw [← htail, List.drop_left]
    have hshort : ((c :: rest).drop spelledStar.length).length ≤ fuel := by
      have hlength : spelledStar.length = 12 := rfl
      rw [List.length_drop]
      simp only [List.length_cons] at hfuel ⊢
      omega
    have hrest := ih hshort
    rw [hdrop] at hrest
    have hself : spelledStar.flatMap inSegments = spelledStar := by decide
    have hstart : (c :: rest).flatMap inSegments = spelledStar ++ tail.flatMap inSegments := by
      rw [← htail, List.flatMap_append, hself]
    have hne : spelledStar ≠ [] := List.cons_ne_nil _ _
    rw [hstart, replaced_append_self hne, hrest, hdrop]
    rfl
  | case4 fuel c rest hnot ih =>
    rw [List.flatMap_cons, List.flatMap_cons, ← ih (by simpa using hfuel), drafted_ofChar]
    by_cases hzero : c = '\x00'
    · have hnot' : ¬ spelledStar <+: (c :: rest).flatMap inSegments := by
        rwa [prefix_flatMap_inSegments fun _ h => h, ← List.isPrefixOf_iff_prefix]
      subst hzero
      exact replaced_cons _ hnot'
    · exact replaced_append_of_not_mem (fun h => hzero (zero_mem_inSegments h)) _ _ _

/-! ## Exchanging question marks -/

/-- Question marks are exchanged, and all elements are then in their final form. -/
theorem replaced_questions {es : List Element} (hes : ∀ e ∈ es, e.IsDrawn) :
    replaced ['?'] ['.'] (es.flatMap Element.drafted) = es.flatMap Element.written := by
  refine replaced_flatMap fun e he => ?_
  have hdrawn := hes e he
  cases e with
  | one => exact .inl ⟨rfl, rfl⟩
  | exactly c =>
    refine .inr ⟨fun h => ?_, rfl⟩
    exact hdrawn.2 ((mem_escaped question_not_mem_foreignSigns).1 h).symm
  | star => exact .inr ⟨by decide, rfl⟩
  | doubleStar => exact .inr ⟨by decide, rfl⟩

/-- **The expression of a pattern is made of its elements**, with a dollar sign behind them if it is
closed. -/
theorem expression_eq (s : String) :
    expression s.toList =
      (ofText s).elements.flatMap Element.written ++ if (ofText s).closed then ['$'] else [] := by
  have hdrawn : ∀ e ∈ (ofText s).elements, e.IsDrawn := fun e => isDrawn_of_mem_elementsFrom
  have hclosed : endsClosed s.toList = (ofText s).closed := rfl
  rw [expression, replaced_doubleStars, replaced_stars, replaced_spelledStars (Nat.le_refl _)]
  simp only [hclosed]
  rw [← replaced_questions hdrawn]
  split_ifs with h
  · rfl
  · rw [List.append_nil]
    rfl

/-! ## Reading expressions -/

theorem isSign_eq_false_iff {c : Char} :
    isSign c = false ↔ c ≠ '*' ∧ c ≠ '?' ∧ c ∉ foreignSigns := by
  simp [isSign]

theorem isSign_of_mem {c : Char} (h : c ∈ foreignSigns) : isSign c = true := by
  simp [isSign, h]

/-- A character that is no sign stands for itself. -/
theorem ofExpression?_of_not_isSign {c : Char} (hc : isSign c = false) (rest : List Char) :
    ofExpression? (c :: rest) = (ofExpression? rest).map (cons (.exactly c)) := by
  have hne : ∀ d, isSign d = true → c ≠ d := by rintro d hd rfl; simp [hc] at hd
  have hdollar := hne '$' (by decide)
  have hpoint := hne '.' (by decide)
  have hbracket := hne '[' (by decide)
  have hslash := hne '\\' (by decide)
  rw [ofExpression?.eq_def]
  split <;> simp_all

/-- A sign with a backslash in front stands for itself. -/
theorem ofExpression?_backslash {c : Char} (hc : isSign c = true) (rest : List Char) :
    ofExpression? ('\\' :: c :: rest) = (ofExpression? rest).map (cons (.exactly c)) := by
  simp [ofExpression?, hc]

/-- A point stands for one character if no star follows. -/
theorem ofExpression?_point {rest : List Char} (h : rest.head? ≠ some '*') :
    ofExpression? ('.' :: rest) = (ofExpression? rest).map (cons .one) := by
  have hstar : ∀ tail, rest ≠ '*' :: tail := by rintro tail rfl; exact h rfl
  rw [ofExpression?]
  exact hstar

/-- The form of an element does not begin with a star. -/
theorem head?_written {e : Element} (he : e.IsDrawn) (rest : List Char) :
    (e.written ++ rest).head? ≠ some '*' := by
  cases e with
  | exactly c =>
    by_cases hsign : c ∈ foreignSigns
    · simp [Element.written, escaped_of_mem hsign]
    · simpa [Element.written, escaped_of_not_mem hsign] using he.1
  | one => simp [Element.written]
  | star => simp [Element.written]
  | doubleStar => simp [Element.written]

/-- Elements, with or without a dollar sign behind them, do not begin with a star. -/
theorem head?_flatMap_written {es : List Element} (hes : ∀ e ∈ es, e.IsDrawn) (closed : Bool) :
    (es.flatMap Element.written ++ if closed then ['$'] else []).head? ≠ some '*' := by
  cases es with
  | nil => cases closed <;> simp
  | cons e es =>
    rw [List.flatMap_cons, List.append_assoc]
    exact head?_written (hes e (by simp)) _

/-- The form of an element is read as that element. -/
theorem ofExpression?_written {e : Element} (he : e.IsDrawn) {rest : List Char}
    (hrest : rest.head? ≠ some '*') :
    ofExpression? (e.written ++ rest) = (ofExpression? rest).map (cons e) := by
  cases e with
  | exactly c =>
    by_cases hsign : c ∈ foreignSigns
    · rw [Element.written, escaped_of_mem hsign]
      exact ofExpression?_backslash (isSign_of_mem hsign) rest
    · rw [Element.written, escaped_of_not_mem hsign]
      exact ofExpression?_of_not_isSign (isSign_eq_false_iff.2 ⟨he.1, he.2, hsign⟩) rest
  | one => exact ofExpression?_point hrest
  | star => rfl
  | doubleStar => rfl

/-- Elements are read back from their forms. -/
theorem ofExpression?_flatMap_written {es : List Element} (hes : ∀ e ∈ es, e.IsDrawn)
    (closed : Bool) :
    ofExpression? (es.flatMap Element.written ++ if closed then ['$'] else []) =
      some ⟨es, closed⟩ := by
  induction es with
  | nil => cases closed <;> rfl
  | cons e es ih =>
    have hrest : ∀ e ∈ es, e.IsDrawn := fun d hd => hes d (by simp [hd])
    rw [List.flatMap_cons, List.append_assoc,
      ofExpression?_written (hes e (by simp)) (head?_flatMap_written hrest closed), ih hrest]
    rfl

/-- **Every pattern has an expression that can be read**, and what is read is the pattern. -/
theorem compiled_eq (s : String) : compiled s = .ok (ofText s) := by
  have hdrawn : ∀ e ∈ (ofText s).elements, e.IsDrawn := fun e => isDrawn_of_mem_elementsFrom
  rw [compiled, expression_eq, ofExpression?_flatMap_written hdrawn]

end SymbolSieve.Glob
