import SymbolSieve.Proofs.Outcome
import SymbolSieve.Proofs.Text.Aligned
import SymbolSieve.Query.Word

/-!
# Which words carry a label

A label is looked for in the lower-case form of a word, and the value is cut from the word as it was
written.  Lower-casing may lengthen a word and looks at neighbours, so it is not obvious that a word
that begins with a label is recognised, or that one that is recognised begins with it in some case.
Both are so, because the characters of labels are of ASCII and the last one is a colon, and because
lower-casing leaves them alone.

## What is here

* `text_prefix_lower_iff`: a label is found exactly if the first characters of a word become its
  characters one by one.
* `Carries`: the label of a word and its value.
* `readWord_of_label`: a word that begins with a label sets what the label makes of the rest.
* `IsFree`: the words without a label, and `readWord_eq_free_iff`.
-/

set_option autoImplicit false

namespace SymbolSieve

open Text

/-! ## Lower case -/

namespace Text

/-- A character of ASCII that is its own lower-case form. -/
def IsLowerAscii (c : Char) : Prop := c.toNat < 128 ∧ c.toLower = c

theorem lowersTo_self {c : Char} (h : IsLowerAscii c) : LowersTo c c := by
  have hsigma : c ≠ '\u03A3' := by rintro rfl; exact absurd h.1 (by decide)
  have hdot : c ≠ '\u0130' := by rintro rfl; exact absurd h.1 (by decide)
  rw [lowersTo_iff, lowerOne, if_neg hsigma, if_neg hdot, lowerChar, if_pos h.1, h.2]

end Text

/-! ## Words with a label -/

namespace Query

theorem isLowerAscii_of_mem_text {l : Label} {c : Char} (h : c ∈ l.text) : IsLowerAscii c := by
  have hall : (l.text.all fun c => decide (c.toNat < 128 ∧ c.toLower = c)) = true := by
    cases l <;> decide
  have hc := List.all_eq_true.1 hall c h
  rwa [decide_eq_true_iff] at hc

theorem toNat_lt_of_mem_text {l : Label} {c : Char} (h : c ∈ l.text) : c.toNat < 128 :=
  (isLowerAscii_of_mem_text h).1

theorem getLast?_text_ne (l : Label) : l.text.getLast? ≠ some 'i' := by cases l <;> decide

/-- **A label is found** exactly if the first characters of a word become its characters one by
one. -/
theorem text_prefix_lower_iff {l : Label} {w : String} :
    l.text <+: (lower w).toList ↔ List.Forall₂ LowersTo (w.toList.take l.text.length) l.text := by
  rw [lower, String.toList_ofList, lowerFrom_eq]
  exact prefix_lowerWithin_iff (fun _ => toNat_lt_of_mem_text) (getLast?_text_ne l) false false _

/-- Whether there is a blank in a text can be computed. -/
theorem isBlank_of_any {cs : List Char} (h : cs.any isBlank = false) {c : Char} (hc : c ∈ cs) :
    isBlank c = false :=
  Bool.eq_false_iff.2 (List.any_eq_false.1 h c hc)

theorem isBlank_of_mem_text {l : Label} {c : Char} (h : c ∈ l.text) : isBlank c = false :=
  isBlank_of_any (by cases l <;> decide) h

/-- No label begins another one, so a label is found at the start of a word whatever follows. -/
theorem ofLower?_text_append (l : Label) (s : List Char) :
    Label.ofLower? (l.text ++ s) = some l := by
  cases l <;> rfl

theorem ofLower?_eq_some_iff {s : List Char} {l : Label} :
    Label.ofLower? s = some l ↔ l.text <+: s := by
  constructor
  · intro h
    exact List.isPrefixOf_iff_prefix.1 (by simpa using List.find?_some h)
  · rintro ⟨rest, rfl⟩
    exact ofLower?_text_append l rest

/-- A word has a label in front, in any case, and a value behind it. -/
def Carries (w : String) (l : Label) (value : List Char) : Prop :=
  l.text <+: (lower w).toList ∧ value = w.toList.drop l.text.length

/-- A word that begins with a label carries it, with what follows as its value. -/
theorem carries_of_toList_eq {w : String} {l : Label} {value : List Char}
    (h : w.toList = l.text ++ value) : Carries w l value := by
  have hself : List.Forall₂ LowersTo l.text l.text :=
    List.forall₂_same.2 fun c hc => lowersTo_self (isLowerAscii_of_mem_text hc)
  refine ⟨text_prefix_lower_iff.2 ?_, by rw [h, List.drop_left]⟩
  rwa [h, List.take_left]

theorem readWord_of_carries {w : String} {l : Label} {value : List Char} (h : Carries w l value) :
    readWord w = (l.settings value).map .sets := by
  rw [readWord, ofLower?_eq_some_iff.2 h.1, h.2]

/-- **A word that begins with a label sets what the label makes of the rest.** -/
theorem readWord_of_label {w : String} {l : Label} {value : List Char}
    (h : w.toList = l.text ++ value) : readWord w = (l.settings value).map .sets :=
  readWord_of_carries (carries_of_toList_eq h)

/-- The label of a word and its value are determined. -/
theorem Carries.eq {w : String} {l l' : Label} {value value' : List Char} (h : Carries w l value)
    (h' : Carries w l' value') : l = l' ∧ value = value' := by
  obtain rfl : l = l' :=
    Option.some.inj ((ofLower?_eq_some_iff.2 h.1).symm.trans (ofLower?_eq_some_iff.2 h'.1))
  exact ⟨rfl, h.2.trans h'.2.symm⟩

theorem Carries.exists_iff {w : String} {l : Label} {value : List Char} (h : Carries w l value)
    {P : Label → List Char → Prop} :
    (∃ l' value', Carries w l' value' ∧ P l' value') ↔ P l value := by
  refine ⟨?_, fun hP => ⟨l, value, h, hP⟩⟩
  rintro ⟨l', value', h', hP⟩
  obtain ⟨rfl, rfl⟩ := h.eq h'
  exact hP

/-! ## Words without a label -/

/-- A word whose lower-case form does not begin with a label. -/
def IsFree (w : String) : Prop := ∀ l : Label, ¬ l.text <+: (lower w).toList

theorem ofLower?_eq_none_iff {s : List Char} :
    Label.ofLower? s = none ↔ ∀ l : Label, ¬ l.text <+: s := by
  have hall : ∀ l, l ∈ Label.all := by intro l; cases l <;> decide
  simp [Label.ofLower?, List.find?_eq_none, hall]

theorem isFree_or_carries (w : String) : IsFree w ∨ ∃ l value, Carries w l value := by
  rcases Classical.em (IsFree w) with h | h
  · exact .inl h
  · obtain ⟨l, hl⟩ := not_forall.1 h
    exact .inr ⟨l, _, not_not.1 hl, rfl⟩

/-- **The words that are searched for are those without a label.** -/
theorem readWord_eq_free_iff {w : String} : readWord w = .ok .free ↔ IsFree w := by
  rw [IsFree, ← ofLower?_eq_none_iff, readWord]
  cases hlabel : Label.ofLower? (lower w).toList with
  | none => simp
  | some l =>
    simp only [reduceCtorEq, iff_false]
    intro h
    obtain ⟨settings, -, hsets⟩ := map_eq_ok_iff.1 h
    cases hsets

end Query

end SymbolSieve
