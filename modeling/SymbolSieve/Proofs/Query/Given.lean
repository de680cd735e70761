import Mathlib.Tactic.SplitIfs
import SymbolSieve.Proofs.Assoc
import SymbolSieve.Proofs.Query.Label

/-!
# What words give to fields

A word with a label and a value that the label accepts gives values to one field or to two.  What is
accepted is stated here for each field, apart from the reader.

## What is here

* `Asks`: the values that ask for presence or absence.
* `Label.Gives`, `Gives`: the values that a label accepts, and what a word gives to a field.
* `mem_settings_iff`: a labelled value sets what it gives.
* `given?`: what the reader takes from a word for a field; `given?_eq_some_iff` says that it is what
  the word gives.
-/

set_option autoImplicit false

namespace SymbolSieve.Query

open Text

/-! ## Accepted values -/

/-- A value asks for presence with a `>` or a positive number, and for absence with zero. -/
inductive Asks : List Char → Bool → Prop where
  | more (value : List Char) : Asks ('>' :: value) true
  | some {value : List Char} {n : Int} (h : Number.leadingInt value = .ok (.some n)) (hn : 0 < n) :
    Asks value true
  | none {value : List Char} (h : Number.leadingInt value = .ok (.some 0)) : Asks value false

/-- A value behind a label is accepted for a field, and gives it a value. -/
inductive Label.Gives : Label → List Char → Field → Value → Prop where
  | kind {value : List Char} (h : String.ofList value ∈ Vocabulary.kindWords) :
    Gives .kind value .kind (.text (String.ofList value))
  | state {value : List Char} (h : String.ofList value ∈ Vocabulary.stateWords) :
    Gives .state value .state (.text (String.ofList value))
  | file (value : List Char) : Gives .file value .file (.text (String.ofList value))
  | atLeast {value : List Char} {n : Int} (h : Number.leadingInt value = .ok (some n)) :
    Gives .refs ('>' :: value) .minRefs (.int n)
  | atMost {value : List Char} {n : Int} (h : Number.leadingInt value = .ok (some n)) :
    Gives .refs ('<' :: value) .maxRefs (.int n)
  | noLess {value : List Char} {n : Int} (h : Number.leadingInt value = .ok (some n)) :
    Gives .refs value .minRefs (.int n)
  | noMore {value : List Char} {n : Int} (h : Number.leadingInt value = .ok (some n)) :
    Gives .refs value .maxRefs (.int n)
  | callers {value : List Char} {b : Bool} (h : Asks value b) :
    Gives .callers value .hasCallers (.bool b)
  | callees {value : List Char} {b : Bool} (h : Asks value b) :
    Gives .callees value .hasCallees (.bool b)
  | entry (value : List Char) :
    Gives .entry value .entry (.bool (lower (String.ofList value) == "true"))
  | hasCallers {value : List Char} (h : lower (String.ofList value) = "callers") :
    Gives .has value .hasCallers (.bool true)
  | hasCallees {value : List Char} (h : lower (String.ofList value) = "callees") :
    Gives .has value .hasCallees (.bool true)

/-- A word is accepted for a field, and gives it a value. -/
def Gives (w : String) (f : Field) (v : Value) : Prop :=
  ∃ l value, Carries w l value ∧ l.Gives value f v

/-! ## What the reader takes from values -/

theorem leadingInt_eq_ok_iff {value : List Char} {n : Option Int} :
    leadingInt value = .ok n ↔ Number.leadingInt value = .ok n := by
  rw [leadingInt]
  split <;> simp_all

/-- A value that begins with the sign of a bound does not begin with an integer. -/
theorem leadingInt_sign {c : Char} (hc : c = '>' ∨ c = '<') (value : List Char) :
    Number.leadingInt (c :: value) = .ok none := by
  rcases hc with rfl | rfl <;> rfl

theorem presence?_eq_iff {value : List Char} {b : Bool} :
    presence? value = .ok (some b) ↔ Asks value b := by
  rw [presence?.eq_def]
  split
  next value =>
    constructor
    · intro h
      obtain rfl : true = b := by simpa using h
      exact .more value
    · rintro (_ | ⟨h, -⟩ | h)
      · rfl
      · simp [leadingInt_sign (.inl rfl)] at h
      · simp [leadingInt_sign (.inl rfl)] at h
  next value hmore =>
    rw [map_eq_ok_iff]
    constructor
    · rintro ⟨x, hx, hb⟩
      rw [leadingInt_eq_ok_iff] at hx
      cases x with
      | none => cases hb
      | some n =>
        simp only at hb
        split_ifs at hb with hzero hpos
        · subst hzero
          obtain rfl := Option.some.inj hb
          exact .none hx
        · obtain rfl := Option.some.inj hb
          exact .some hx hpos
    · rintro (value | ⟨h, hn⟩ | h)
      · exact absurd rfl (hmore _)
      · exact ⟨_, leadingInt_eq_ok_iff.2 h, by simp [hn, (Int.ne_of_lt hn).symm]⟩
      · exact ⟨_, leadingInt_eq_ok_iff.2 h, rfl⟩

/-! ## What labelled values set -/

theorem mem_refsSettings_iff {value : List Char} {f : Field} {v : Value} :
    (∃ as, refsSettings value = .ok as ∧ (f, v) ∈ as) ↔ Label.refs.Gives value f v := by
  rw [refsSettings.eq_def]
  constructor
  · rintro ⟨as, has, hmem⟩
    split at has
    all_goals
      obtain ⟨x, hx, rfl⟩ := map_eq_ok_iff.1 has
      rw [leadingInt_eq_ok_iff] at hx
      cases x with
      | none => cases hmem
      | some n => ?_
    · obtain ⟨rfl, rfl⟩ : f = .minRefs ∧ v = .int n := by simpa using hmem
      exact .atLeast hx
    · obtain ⟨rfl, rfl⟩ : f = .maxRefs ∧ v = .int n := by simpa using hmem
      exact .atMost hx
    · obtain ⟨rfl, rfl⟩ | ⟨rfl, rfl⟩ : f = .minRefs ∧ v = .int n ∨ f = .maxRefs ∧ v = .int n := by
        simpa using hmem
      · exact .noLess hx
      · exact .noMore hx
  · intro h
    cases h with
    | atLeast h => exact ⟨_, map_eq_ok_iff.2 ⟨_, leadingInt_eq_ok_iff.2 h, rfl⟩, by simp⟩
    | atMost h => exact ⟨_, map_eq_ok_iff.2 ⟨_, leadingInt_eq_ok_iff.2 h, rfl⟩, by simp⟩
    | noLess h | noMore h =>
      split
      · simp [leadingInt_sign (.inl rfl)] at h
      · simp [leadingInt_sign (.inr rfl)] at h
      · exact ⟨_, map_eq_ok_iff.2 ⟨_, leadingInt_eq_ok_iff.2 h, rfl⟩, by simp⟩

theorem mem_presenceSettings_iff {g : Field} {value : List Char} {f : Field} {v : Value} :
    (∃ as, presenceSettings g value = .ok as ∧ (f, v) ∈ as) ↔
      f = g ∧ ∃ b, v = .bool b ∧ Asks value b := by
  constructor
  · rintro ⟨as, has, hmem⟩
    obtain ⟨p, hp, rfl⟩ := map_eq_ok_iff.1 has
    obtain ⟨b, rfl, rfl, rfl⟩ : ∃ b, p = some b ∧ g = f ∧ .bool b = v := by simpa using hmem
    exact ⟨rfl, b, rfl, presence?_eq_iff.1 hp⟩
  · rintro ⟨rfl, b, rfl, hb⟩
    exact ⟨_, map_eq_ok_iff.2 ⟨_, presence?_eq_iff.2 hb, rfl⟩, by simp⟩

theorem mem_hasSettings_iff {value : List Char} {f : Field} {v : Value} :
    (f, v) ∈ hasSettings value ↔ Label.has.Gives value f v := by
  constructor
  · intro h
    simp only [hasSettings] at h
    split_ifs at h with hcallers hcallees
    · obtain ⟨rfl, rfl⟩ : f = .hasCallers ∧ v = .bool true := by simpa using h
      exact .hasCallers hcallers
    · obtain ⟨rfl, rfl⟩ : f = .hasCallees ∧ v = .bool true := by simpa using h
      exact .hasCallees hcallees
    · cases h
  · intro h
    cases h with
    | hasCallers h => simp [hasSettings, h]
    | hasCallees h => simp [hasSettings, h]

/-- **A labelled value sets what it gives.** -/
theorem mem_settings_iff {l : Label} {value : List Char} {f : Field} {v : Value} :
    (∃ as, l.settings value = .ok as ∧ (f, v) ∈ as) ↔ l.Gives value f v := by
  cases l with
  | kind =>
    simp only [Label.settings, Except.ok.injEq, exists_eq_left', List.contains_iff_mem,
      List.mem_ite_nil_right, List.mem_singleton, Prod.mk.injEq]
    constructor
    · rintro ⟨h, rfl, rfl⟩
      exact .kind h
    · rintro ⟨h⟩
      exact ⟨h, rfl, rfl⟩
  | state =>
    simp only [Label.settings, Except.ok.injEq, exists_eq_left', List.contains_iff_mem,
      List.mem_ite_nil_right, List.mem_singleton, Prod.mk.injEq]
    constructor
    · rintro ⟨h, rfl, rfl⟩
      exact .state h
    · intro h
      cases h with
      | state h => exact ⟨h, rfl, rfl⟩
  | file =>
    simp only [Label.settings, Except.ok.injEq, exists_eq_left', List.mem_singleton,
      Prod.mk.injEq]
    constructor
    · rintro ⟨rfl, rfl⟩
      exact .file value
    · intro h
      cases h with
      | file => exact ⟨rfl, rfl⟩
  | refs => exact mem_refsSettings_iff
  | callers =>
    refine mem_presenceSettings_iff.trans ⟨?_, fun h => ?_⟩
    · rintro ⟨rfl, b, rfl, hb⟩
      exact .callers hb
    · cases h with
      | callers hb => exact ⟨rfl, _, rfl, hb⟩
  | callees =>
    refine mem_presenceSettings_iff.trans ⟨?_, fun h => ?_⟩
    · rintro ⟨rfl, b, rfl, hb⟩
      exact .callees hb
    · cases h with
      | callees hb => exact ⟨rfl, _, rfl, hb⟩
  | entry =>
    simp only [Label.settings, Except.ok.injEq, exists_eq_left', List.mem_singleton,
      Prod.mk.injEq]
    constructor
    · rintro ⟨rfl, rfl⟩
      exact .entry value
    · intro h
      cases h with
      | entry => exact ⟨rfl, rfl⟩
  | has =>
    simp only [Label.settings, Except.ok.injEq, exists_eq_left']
    exact mem_hasSettings_iff

/-- No field is set twice by one word. -/
theorem nodup_settings {l : Label} {value : List Char} {as : List Setting}
    (h : l.settings value = .ok as) : (Assoc.keys as).Nodup := by
  rw [Assoc.keys]
  cases l with
  | kind =>
    cases h
    split <;> simp
  | state =>
    cases h
    split <;> simp
  | file => cases h; simp
  | refs =>
    rw [Label.settings, refsSettings.eq_def] at h
    split at h
    all_goals
      obtain ⟨x, -, rfl⟩ := map_eq_ok_iff.1 h
      cases x <;> simp
  | callers =>
    obtain ⟨x, -, rfl⟩ := map_eq_ok_iff.1 h
    cases x <;> simp
  | callees =>
    obtain ⟨x, -, rfl⟩ := map_eq_ok_iff.1 h
    cases x <;> simp
  | entry => cases h; simp
  | has =>
    cases h
    simp only [hasSettings]
    split_ifs <;> simp

theorem nodup_of_readWord {w : String} {as : List Setting} (h : readWord w = .ok (.sets as)) :
    (Assoc.keys as).Nodup := by
  rcases isFree_or_carries w with hfree | ⟨l, value, hl⟩
  · rw [readWord_eq_free_iff.2 hfree] at h
    cases h
  · obtain ⟨bs, hbs, heq⟩ := map_eq_ok_iff.1 ((readWord_of_carries hl).symm.trans h)
    cases heq
    exact nodup_settings hbs

/-! ## What the reader takes from words -/

/-- What the reader takes from a word for a field. -/
def given? (w : String) (f : Field) : Option Value :=
  match readWord w with
  | .ok (.sets as) => Assoc.get? f as
  | _ => none

/-- **The reader takes from a word what it gives.** -/
theorem given?_eq_some_iff {w : String} {f : Field} {v : Value} :
    given? w f = some v ↔ Gives w f v := by
  rw [given?]
  rcases isFree_or_carries w with hfree | ⟨l, value, hl⟩
  · rw [readWord_eq_free_iff.2 hfree]
    refine iff_of_false (by simp) ?_
    rintro ⟨l, value, hl, -⟩
    exact hfree l hl.1
  · rw [readWord_of_carries hl, Gives, hl.exists_iff, ← mem_settings_iff]
    cases has : l.settings value with
    | error e => simp [Except.map]
    | ok as => simpa [Except.map] using Assoc.get?_eq_some_iff (nodup_settings has)

theorem given?_eq_none_iff {w : String} {f : Field} : given? w f = none ↔ ∀ v, ¬ Gives w f v := by
  simp [Option.eq_none_iff_forall_ne_some, given?_eq_some_iff]

/-- A word that is searched for gives nothing. -/
theorem IsFree.given?_eq_none {w : String} (h : IsFree w) (f : Field) : given? w f = none := by
  rw [given?, readWord_eq_free_iff.2 h]

end SymbolSieve.Query
