import Mathlib.Data.List.Infix
import SymbolSieve.Text.Case

/-!
# Lower case of a part of a text

The lower case of a text need not contain the lower case of its parts.  A capital sigma becomes a
final one at the end of a word, and where a word ends may be decided outside of the part: `ΤΑΣ` is a
word by itself and part of one in `ΤΑΣΗ`.  Nothing else depends on neighbours, and of these only two
things matter, namely whether a letter stands before the part and whether one stands behind it, with
characters that do not end a word stepped over.  So the parts of texts whose lower case is always
found are those in which both do not matter.

## What is here

* `lowerWithin`: the lower case of a part of a text, given whether letters stand around it;
  `lowerWithin_append` takes a text apart.
* `lowerWithin_eq_iff`: the surroundings matter exactly if a sigma ends a word in one of them only.
* `IsSettled`: no sigma of a text depends on what surrounds the text.
* `infix_lower_iff`: the lower case of a text is found wherever the text is exactly if it is
  settled.
-/

set_option autoImplicit false

namespace SymbolSieve.Text

/-! ## Letters around a text -/

/-- Whether a letter precedes what follows a text, given whether one precedes the text. -/
def inWordAfter (before : Bool) : List Char → Bool
  | [] => before
  | c :: rest => inWordAfter (if isCaseIgnorable c then before else isCased c) rest

/-- Whether a letter follows, given whether one follows behind a text. -/
def letterAhead (behind : Bool) : List Char → Bool
  | [] => behind
  | c :: rest => if isCaseIgnorable c then letterAhead behind rest else isCased c

theorem letterAhead_false (s : List Char) : letterAhead false s = startsWithLetter s := by
  induction s with
  | nil => rfl
  | cons c s ih =>
    rw [letterAhead, ih, startsWithLetter, startsWithLetter, List.dropWhile_cons]
    split <;> rfl

theorem letterAhead_append (behind : Bool) (s t : List Char) :
    letterAhead behind (s ++ t) = letterAhead (letterAhead behind t) s := by
  induction s with
  | nil => rfl
  | cons c s ih => rw [List.cons_append, letterAhead, letterAhead, ih]

/-- What precedes a text matters behind it only if the text has nothing but ignorable characters. -/
theorem inWordAfter_eq (before : Bool) (s : List Char) :
    inWordAfter before s = if s.all isCaseIgnorable then before else inWordAfter false s := by
  induction s generalizing before with
  | nil => rfl
  | cons c s ih =>
    by_cases hc : isCaseIgnorable c = true
    · simpa [inWordAfter, hc] using ih before
    · simp [inWordAfter, hc]

/-- What follows a text matters before it only if the text has nothing but ignorable characters. -/
theorem letterAhead_eq (behind : Bool) (s : List Char) :
    letterAhead behind s = if s.all isCaseIgnorable then behind else startsWithLetter s := by
  rw [← letterAhead_false]
  induction s with
  | nil => rfl
  | cons c s ih =>
    by_cases hc : isCaseIgnorable c = true
    · simpa [letterAhead, hc] using ih
    · simp [letterAhead, hc]

/-! ## Lower case between letters -/

/-- The lower case of a character, given whether it ends a word. -/
def lowerOne (ends : Bool) (c : Char) : List Char :=
  if c = '\u03A3' then [if ends then '\u03C2' else '\u03C3']
  else if c = '\u0130' then ['i', '\u0307']
  else [lowerChar c]

/-- The lower case of a part of a text, given whether a letter precedes it and whether one follows
it. -/
def lowerWithin (before behind : Bool) : List Char → List Char
  | [] => []
  | c :: rest => lowerOne (before && !letterAhead behind rest) c ++
      lowerWithin (if isCaseIgnorable c then before else isCased c) behind rest

theorem lowerFrom_eq (inWord : Bool) (s : List Char) :
    lowerFrom inWord s = lowerWithin inWord false s := by
  induction s generalizing inWord with
  | nil => rfl
  | cons c s ih => rw [lowerFrom, lowerWithin, ih, letterAhead_false, lowerOne]

/-- The lower case of two parts is that of the first and that of the second. -/
theorem lowerWithin_append (before behind : Bool) (s t : List Char) :
    lowerWithin before behind (s ++ t) =
      lowerWithin before (letterAhead behind t) s ++
        lowerWithin (inWordAfter before s) behind t := by
  induction s generalizing before with
  | nil => rfl
  | cons c s ih =>
    rw [List.cons_append, lowerWithin, lowerWithin, ih, letterAhead_append, List.append_assoc,
      inWordAfter]

theorem length_lowerOne (ends ends' : Bool) (c : Char) :
    (lowerOne ends c).length = (lowerOne ends' c).length := by
  rw [lowerOne, lowerOne]
  split
  · rfl
  · rfl

theorem length_lowerWithin (before behind before' behind' : Bool) (s : List Char) :
    (lowerWithin before behind s).length = (lowerWithin before' behind' s).length := by
  induction s generalizing before before' with
  | nil => rfl
  | cons c s ih =>
    rw [lowerWithin, lowerWithin, List.length_append, List.length_append, ih, length_lowerOne]

/-! ## Sigmas -/

/-- Whether a character between two parts of a text ends a word. -/
def endsWord (before behind : Bool) (front back : List Char) : Bool :=
  inWordAfter before front && !letterAhead behind back

theorem lowerOne_of_ne {c : Char} (h : c ≠ '\u03A3') (ends ends' : Bool) :
    lowerOne ends c = lowerOne ends' c := by
  rw [lowerOne, lowerOne, if_neg h, if_neg h]

theorem lowerOne_sigma_inj {ends ends' : Bool}
    (h : lowerOne ends '\u03A3' = lowerOne ends' '\u03A3') : ends = ends' := by
  cases ends <;> cases ends' <;> first | rfl | exact absurd h (by decide)

/-- **What surrounds a text matters** for its lower case exactly if it decides whether a sigma of
the text ends a word. -/
theorem lowerWithin_eq_iff {before behind before' behind' : Bool} {s : List Char} :
    lowerWithin before behind s = lowerWithin before' behind' s ↔
      ∀ front back, s = front ++ '\u03A3' :: back →
        endsWord before behind front back = endsWord before' behind' front back := by
  constructor
  · rintro h front back rfl
    rw [lowerWithin_append, lowerWithin_append] at h
    have hrest := (List.append_inj h (length_lowerWithin _ _ _ _ front)).2
    rw [lowerWithin, lowerWithin] at hrest
    exact lowerOne_sigma_inj (List.append_inj hrest (length_lowerOne _ _ _)).1
  · intro h
    induction s generalizing before before' with
    | nil => rfl
    | cons c s ih =>
      rw [lowerWithin, lowerWithin, ih fun front back hs => h (c :: front) back (by rw [hs]; rfl)]
      by_cases hc : c = '\u03A3'
      · subst hc
        have hends : (before && !letterAhead behind s) = (before' && !letterAhead behind' s) :=
          h [] s rfl
        rw [hends]
      · rw [lowerOne_of_ne hc]

/-- No sigma of a text depends on what surrounds the text: one that only ignorable characters
precede has a letter behind it, and one that only ignorable characters follow has no letter before
it. -/
def IsSettled (s : List Char) : Prop :=
  ∀ front back, s = front ++ '\u03A3' :: back →
    (front.all isCaseIgnorable = true → startsWithLetter back = true) ∧
      (back.all isCaseIgnorable = true → inWordAfter false front = false)

theorem endsWord_eq (before behind : Bool) (front back : List Char) :
    endsWord before behind front back =
      ((if front.all isCaseIgnorable then before else inWordAfter false front) &&
        !(if back.all isCaseIgnorable then behind else startsWithLetter back)) := by
  rw [endsWord, inWordAfter_eq, letterAhead_eq]

/-- What surrounds a text can be seen through ignorable characters only. -/
theorem endsWord_eq_iff {front back : List Char} :
    (∀ before behind, endsWord before behind front back = endsWord false false front back) ↔
      (front.all isCaseIgnorable = true → startsWithLetter back = true) ∧
        (back.all isCaseIgnorable = true → inWordAfter false front = false) := by
  have hfront : front.all isCaseIgnorable = true → inWordAfter false front = false := fun h => by
    rw [inWordAfter_eq, if_pos h]
  have hback : back.all isCaseIgnorable = true → startsWithLetter back = false := fun h => by
    rw [← letterAhead_false, letterAhead_eq, if_pos h]
  have hall : ∀ f b word letter : Bool, (f = true → word = false) → (b = true → letter = false) →
      ((∀ before behind, ((if f then before else word) && !(if b then behind else letter)) =
        ((if f then false else word) && !(if b then false else letter))) ↔
      (f = true → letter = true) ∧ (b = true → word = false)) := by
    decide
  simp only [endsWord_eq]
  exact hall _ _ _ _ hfront hback

/-- A text is settled if its lower case is the same between any letters. -/
theorem isSettled_iff {s : List Char} :
    IsSettled s ↔ ∀ before behind, lowerWithin before behind s = lowerWithin false false s := by
  simp only [lowerWithin_eq_iff]
  constructor
  · exact fun h before behind front back hs => endsWord_eq_iff.2 (h front back hs) before behind
  · exact fun h front back hs =>
      endsWord_eq_iff.1 fun before behind => h before behind front back hs

instance : DecidablePred IsSettled := fun _ => decidable_of_iff' _ isSettled_iff

/-! ## Parts of texts -/

/-- A text that occurs in one that is longer by two characters is the middle of it, unless it begins
or ends like it. -/
theorem middle_eq {l m : List Char} {x y : Char} (h : l <:+: x :: (m ++ [y]))
    (hlength : l.length = m.length) (hhead : l.head? ≠ some x) (hlast : l.getLast? ≠ some y) :
    l = m := by
  rcases List.infix_cons_iff.1 h with hprefix | hinfix
  · rcases List.prefix_cons_iff.1 hprefix with rfl | ⟨rest, rfl, -⟩
    · exact (List.eq_nil_of_length_eq_zero hlength.symm).symm
    · exact absurd List.head?_cons hhead
  rcases List.infix_concat_iff.1 hinfix with hsuffix | hinfix
  · rcases List.suffix_concat_iff.1 hsuffix with rfl | ⟨start, rfl, -⟩
    · exact (List.eq_nil_of_length_eq_zero hlength.symm).symm
    · exact absurd List.getLast?_concat hlast
  · exact hinfix.eq_of_length hlength

/-- A character that says whether a letter stands there, and is not a given one. -/
theorem exists_edge (letter : Bool) (o : Option Char) :
    ∃ x, isCaseIgnorable x = false ∧ isCased x = letter ∧ (∀ ends, lowerOne ends x = [x]) ∧
      o ≠ some x := by
  obtain ⟨x, x', hne, hx, hx'⟩ : ∃ x x' : Char, x ≠ x' ∧
      (isCaseIgnorable x = false ∧ isCased x = letter ∧ ∀ ends, lowerOne ends x = [x]) ∧
      isCaseIgnorable x' = false ∧ isCased x' = letter ∧ ∀ ends, lowerOne ends x' = [x'] := by
    cases letter with
    | false => exact ⟨' ', '/', by decide, by decide, by decide⟩
    | true => exact ⟨'a', 'b', by decide, by decide, by decide⟩
  by_cases ho : o = some x
  · exact ⟨x', hx'.1, hx'.2.1, hx'.2.2, by simpa [ho] using hne⟩
  · exact ⟨x, hx.1, hx.2.1, hx.2.2, ho⟩

/-- **The lower case of a text is found wherever the text is** exactly if the text is settled. -/
theorem infix_lower_iff {s : List Char} :
    (∀ t, s <:+: t → lowerFrom false s <:+: lowerFrom false t) ↔ IsSettled s := by
  simp only [isSettled_iff, lowerFrom_eq]
  constructor
  · intro h before behind
    obtain ⟨x, hxskip, hxletter, hxlower, hx⟩ :=
      exists_edge before (lowerWithin false false s).head?
    obtain ⟨y, hyskip, hyletter, hylower, hy⟩ :=
      exists_edge behind (lowerWithin false false s).getLast?
    have hinfix := h (x :: (s ++ [y])) ⟨[x], [y], by simp⟩
    have hlower : lowerWithin false false (x :: (s ++ [y])) =
        x :: (lowerWithin before behind s ++ [y]) := by
      simp only [lowerWithin, lowerWithin_append, letterAhead, hxskip, hxletter, hxlower, hyskip,
        hyletter, hylower, Bool.false_eq_true, if_false, List.singleton_append, List.append_nil]
    rw [hlower] at hinfix
    exact (middle_eq hinfix (length_lowerWithin _ _ _ _ s) hx hy).symm
  · rintro h _ ⟨front, back, rfl⟩
    rw [lowerWithin_append, lowerWithin_append, h (inWordAfter false front)]
    exact List.infix_append _ _ _

end SymbolSieve.Text
