import Mathlib.Tactic.SplitIfs
import SymbolSieve.Proofs.Query.WellFormed

/-!
# Queries that cannot be read

Reading an integer ends in a fault if it has more than `digitLimit` digits.  In a query, integers
are read behind three labels, for bounds on references and for presence.  No other word keeps a
query from being read, and no value that is not a text does.

## What is here

* `Label.TooLong`, `Overlong`: values and words with an integer that is too long.
* `exists_settings_iff`, `exists_readWord_iff`: every other value, and every other word, is read.
* `parseValue_returns_iff`: what can be given as a query without a fault.
-/

set_option autoImplicit false

namespace SymbolSieve.Query

open Text

/-! ## Integers that are too long -/

/-- The digits of the integer that a value begins with, after white space and a sign. -/
def leadingDigits (value : List Char) : List Nat :=
  Number.takeDigits (Number.takeSign (value.dropWhile isBlank)).2

/-- A value from which an integer with too many digits would be read. -/
inductive Label.TooLong : Label → List Char → Prop where
  | bound {c : Char} {value : List Char} (hc : c = '>' ∨ c = '<')
    (h : digitLimit < (leadingDigits value).length) : TooLong .refs (c :: value)
  | refs {value : List Char} (h : digitLimit < (leadingDigits value).length) : TooLong .refs value
  | callers {value : List Char} (h : digitLimit < (leadingDigits value).length) :
    TooLong .callers value
  | callees {value : List Char} (h : digitLimit < (leadingDigits value).length) :
    TooLong .callees value

/-- A word from which an integer with too many digits would be read. -/
def Overlong (w : String) : Prop := ∃ l value, Carries w l value ∧ l.TooLong value

theorem exists_leadingInt_iff {value : List Char} :
    (∃ n, leadingInt value = .ok n) ↔ ¬ digitLimit < (leadingDigits value).length := by
  rw [leadingInt, Number.leadingInt]
  cases hds : leadingDigits value with
  | nil =>
    rw [leadingDigits] at hds
    simp [hds, digitLimit]
  | cons d ds =>
    rw [leadingDigits] at hds
    simp only [hds, Number.ofSignedDigits]
    split_ifs with hlong <;> simpa [Except.map] using hlong

/-- A value that begins with the sign of a bound does not begin with an integer. -/
theorem leadingDigits_sign {c : Char} (hc : c = '>' ∨ c = '<') (value : List Char) :
    leadingDigits (c :: value) = [] := by
  rcases hc with rfl | rfl <;> rfl

/-! ## Which values and words are read -/

theorem tooLong_sign_iff {c : Char} (hc : c = '>' ∨ c = '<') {value : List Char} :
    Label.refs.TooLong (c :: value) ↔ digitLimit < (leadingDigits value).length := by
  refine ⟨fun h => ?_, .bound hc⟩
  cases h with
  | bound _ h => exact h
  | refs h => simp [leadingDigits_sign hc] at h

theorem exists_refsSettings_iff {value : List Char} :
    (∃ as, refsSettings value = .ok as) ↔ ¬ Label.refs.TooLong value := by
  rw [refsSettings.eq_def]
  split
  next value => rw [exists_map_iff, exists_leadingInt_iff, tooLong_sign_iff (.inl rfl)]
  next value => rw [exists_map_iff, exists_leadingInt_iff, tooLong_sign_iff (.inr rfl)]
  next value hmore hless =>
    rw [exists_map_iff, exists_leadingInt_iff]
    refine not_congr ⟨.refs, fun h => ?_⟩
    cases h with
    | bound hc _ =>
      rcases hc with rfl | rfl
      · exact absurd rfl (hmore _)
      · exact absurd rfl (hless _)
    | refs h => exact h

theorem exists_presenceSettings_iff {f : Field} {value : List Char} :
    (∃ as, presenceSettings f value = .ok as) ↔ ¬ digitLimit < (leadingDigits value).length := by
  rw [presenceSettings, exists_map_iff, presence?.eq_def]
  split
  next value => simp [leadingDigits_sign (.inl rfl) value]
  next value _ => rw [exists_map_iff, exists_leadingInt_iff]

/-- **A labelled value is read** if no integer in it is too long. -/
theorem exists_settings_iff {l : Label} {value : List Char} :
    (∃ as, l.settings value = .ok as) ↔ ¬ l.TooLong value := by
  cases l with
  | refs => exact exists_refsSettings_iff
  | callers =>
    refine exists_presenceSettings_iff.trans (not_congr ⟨.callers, fun hlong => ?_⟩)
    cases hlong with
    | callers h => exact h
  | callees =>
    refine exists_presenceSettings_iff.trans (not_congr ⟨.callees, fun hlong => ?_⟩)
    cases hlong with
    | callees h => exact h
  | kind | state | file | entry | has =>
    refine iff_of_true ⟨_, rfl⟩ ?_
    rintro ⟨⟩

/-- **A word is read** if no integer in it is too long. -/
theorem exists_readWord_iff {w : String} : (∃ r, readWord w = .ok r) ↔ ¬ Overlong w := by
  rcases isFree_or_carries w with hfree | ⟨l, value, hl⟩
  · refine iff_of_true ⟨_, readWord_eq_free_iff.2 hfree⟩ ?_
    rintro ⟨l, value, hl, -⟩
    exact hfree l hl.1
  · rw [readWord_of_carries hl, exists_map_iff, exists_settings_iff, Overlong, hl.exists_iff]

/-! ## Which queries are read -/

/-- **A value can be given as a query** and describes a well-formed specification, unless it is a
text with a word that holds an integer of more than `digitLimit` digits behind a label that reads
integers. -/
theorem parseValue_returns_iff (v : Value) :
    (∃ s, parseValue v = .ok s ∧ WellFormed s) ↔
      ∀ q, v = .text q → ∀ w ∈ words q, ¬ Overlong w := by
  cases v with
  | text q =>
    have hwell : (∃ s, parse q = .ok s ∧ WellFormed s) ↔ ∃ s, parse q = .ok s :=
      exists_congr fun s => and_iff_left_of_imp wellFormed_of_parse
    simp only [parseValue, hwell, Value.text.injEq, forall_eq', ← exists_readWord_iff]
    rw [parse, exists_map_iff, exists_readings_iff]
  | _ => exact iff_of_true ⟨_, rfl, wellFormed_unconstrained⟩ (by simp)

/-! ## A query that is not read -/

theorem leadingDigits_replicate (n : Nat) :
    leadingDigits (List.replicate n '1') = List.replicate n 1 := by
  have hone : digit? '1' = some 1 := by decide
  have hdigits : Number.takeDigits (List.replicate n '1') = List.replicate n 1 := by
    induction n with
    | zero => rfl
    | succ n ih => rw [List.replicate_succ, Number.takeDigits, hone, ih, List.replicate_succ]
  cases n with
  | zero => rfl
  | succ n => exact hdigits

/-- A bound of some number of digits. -/
def boundWord (n : Nat) : String := "refs:>" ++ String.ofList (List.replicate n '1')

theorem toList_boundWord (n : Nat) :
    (boundWord n).toList = Label.refs.text ++ '>' :: List.replicate n '1' := by
  have hlabel : "refs:>".toList = Label.refs.text ++ ['>'] := by decide
  have hdigits : (String.ofList (List.replicate n '1')).toList = List.replicate n '1' :=
    String.toList_ofList
  rw [boundWord, String.toList_append, hlabel, hdigits, List.append_assoc, List.singleton_append]

theorem isWord_boundWord (n : Nat) : IsWord (boundWord n) := by
  refine ⟨by simp [boundWord], fun c hc => ?_⟩
  rw [toList_boundWord, List.mem_append, List.mem_cons] at hc
  rcases hc with hc | rfl | hc
  · exact isBlank_of_mem_text hc
  · rfl
  · rw [List.eq_of_mem_replicate hc]
    rfl

theorem overlong_boundWord {n : Nat} (h : digitLimit < n) : Overlong (boundWord n) := by
  refine ⟨.refs, _, carries_of_toList_eq (toList_boundWord n), .bound (.inl rfl) ?_⟩
  rwa [leadingDigits_replicate, List.length_replicate]

/-- A bound that is too long keeps a query from being read, also one that would be overwritten. -/
theorem boundWord_not_read :
    ¬ ∃ s, parseValue (.text (boundWord (digitLimit + 1) ++ " " ++ "refs:>5")) = .ok s := by
  rw [parseValue, parse, exists_map_iff, exists_readings_iff,
    words_append_space (isWord_boundWord _)]
  intro h
  exact exists_readWord_iff.1 (h _ List.mem_cons_self) (overlong_boundWord (Nat.lt_succ_self _))

end SymbolSieve.Query
