import SymbolSieve.Proofs.Number.Decimal
import SymbolSieve.Proofs.Query.Label
import SymbolSieve.Proofs.Spec.Fieldwise
import SymbolSieve.Proofs.Text.Words
import SymbolSieve.Query.Parse

/-!
# The specifications that queries describe

The fields of a specification are dynamic values, but a query gives each of them only values of its
own kind.

## What is here

* `Admits`: the values that a query can give to a field.
* `WellFormed`: the specifications that have such a value in every field.  The default is one, and
  `WellFormed.set` says that writing a field keeps it so.
* `wellFormed_of_parse`: every query that can be read describes such a specification.
-/

set_option autoImplicit false

namespace SymbolSieve.Query

open Text

/-! ## Values of fields -/

/-- The values that a query can give to a field.  The search text is made of words that carry no
label, with one space between neighbours; a bound has no more digits than are read and written. -/
def Admits : Field → Value → Prop
  | .search, v => ∃ t, v = .text t ∧ IsJoined t ∧ ∀ w ∈ words t, IsFree w
  | .kind, v => ∃ k ∈ Vocabulary.kindWords, v = .text k
  | .state, v => v = .text "all" ∨ ∃ k ∈ Vocabulary.stateWords, v = .text k
  | .file, v => ∃ p, v = .text p ∧ ∀ c ∈ p.toList, isBlank c = false
  | .minRefs, v | .maxRefs, v => v = .null ∨ ∃ n : Int, v = .int n ∧ n.natAbs < 10 ^ digitLimit
  | .hasCallers, v | .hasCallees, v | .entry, v => v = .null ∨ ∃ b, v = .bool b

/-- Every field has a value that a query can give to it. -/
def WellFormed (s : Spec) : Prop := ∀ f, Admits f (s.get f)

theorem admits_default (f : Field) : Admits f f.default := by
  cases f with
  | search => exact ⟨"", rfl, rfl, by simp⟩
  | kind => exact ⟨"all", by decide, rfl⟩
  | state => exact .inl rfl
  | file => exact ⟨"", rfl, by simp⟩
  | minRefs | maxRefs | hasCallers | hasCallees | entry => exact .inl rfl

theorem wellFormed_unconstrained : WellFormed .unconstrained :=
  Spec.fieldwise_unconstrained admits_default

theorem WellFormed.set {s : Spec} (h : WellFormed s) {f : Field} {v : Value} (hv : Admits f v) :
    WellFormed (s.set f v) :=
  Spec.Fieldwise.set h hv

/-- Settings whose values are admitted keep a specification well formed. -/
theorem WellFormed.foldl_set {as : List Setting} {s : Spec} (h : WellFormed s)
    (has : ∀ a ∈ as, Admits a.1 a.2) : WellFormed (as.foldl (fun s a => s.set a.1 a.2) s) := by
  induction as generalizing s with
  | nil => exact h
  | cons a as ih => exact ih (h.set (has a (by simp))) fun b hb => has b (by simp [hb])

/-! ## What words set -/

theorem admits_bound {value : List Char} {n : Int} (h : leadingInt value = .ok (some n)) (f : Field)
    (hf : f = .minRefs ∨ f = .maxRefs) : Admits f (.int n) := by
  have hread : Number.leadingInt value = .ok (some n) := by
    rw [leadingInt] at h
    split at h
    next hread => rw [hread]; simpa using h
    next => cases h
  have hn : n.natAbs < 10 ^ digitLimit :=
    writableInt_iff.1 (Number.writableInt_of_leadingInt hread)
  rcases hf with rfl | rfl <;> exact .inr ⟨n, rfl, hn⟩

theorem admits_refsSettings {value : List Char} {as : List Setting}
    (h : refsSettings value = .ok as) : ∀ a ∈ as, Admits a.1 a.2 := by
  unfold refsSettings at h
  split at h
  all_goals
    obtain ⟨n, hn, rfl⟩ := map_eq_ok_iff.1 h
    cases n with
    | none => simp
    | some n =>
      have hmin := admits_bound hn .minRefs (.inl rfl)
      have hmax := admits_bound hn .maxRefs (.inr rfl)
      simp_all

theorem admits_presenceSettings {f : Field} (hf : f = .hasCallers ∨ f = .hasCallees)
    {value : List Char} {as : List Setting} (h : presenceSettings f value = .ok as) :
    ∀ a ∈ as, Admits a.1 a.2 := by
  obtain ⟨p, -, rfl⟩ := map_eq_ok_iff.1 h
  intro a ha
  obtain ⟨b, -, rfl⟩ : ∃ b, p = some b ∧ (f, Value.bool b) = a := by simpa using ha
  rcases hf with rfl | rfl <;> exact .inr ⟨b, rfl⟩

theorem admits_hasSettings (value : List Char) : ∀ a ∈ hasSettings value, Admits a.1 a.2 := by
  intro a ha
  simp only [hasSettings] at ha
  split at ha
  · obtain rfl : a = (.hasCallers, .bool true) := by simpa using ha
    exact .inr ⟨true, rfl⟩
  · split at ha
    · obtain rfl : a = (.hasCallees, .bool true) := by simpa using ha
      exact .inr ⟨true, rfl⟩
    · cases ha

/-- A label gives its fields values that are admitted, if there is no white space behind it. -/
theorem admits_settings {l : Label} {value : List Char} {as : List Setting}
    (hvalue : ∀ c ∈ value, isBlank c = false) (h : l.settings value = .ok as) :
    ∀ a ∈ as, Admits a.1 a.2 := by
  cases l with
  | kind =>
    cases h
    intro a ha
    split at ha
    next hmem =>
      obtain rfl : a = (.kind, .text (String.ofList value)) := by simpa using ha
      exact ⟨_, by simpa using hmem, rfl⟩
    next => cases ha
  | state =>
    cases h
    intro a ha
    split at ha
    next hmem =>
      obtain rfl : a = (.state, .text (String.ofList value)) := by simpa using ha
      exact .inr ⟨_, by simpa using hmem, rfl⟩
    next => cases ha
  | file =>
    cases h
    intro a ha
    obtain rfl : a = (.file, .text (String.ofList value)) := by simpa using ha
    exact ⟨_, rfl, by simpa using hvalue⟩
  | refs => exact admits_refsSettings h
  | callers => exact admits_presenceSettings (.inl rfl) h
  | callees => exact admits_presenceSettings (.inr rfl) h
  | entry =>
    cases h
    intro a ha
    obtain rfl : a = (.entry, .bool (lower (String.ofList value) == "true")) := by simpa using ha
    exact .inr ⟨_, rfl⟩
  | has =>
    cases h
    exact admits_hasSettings value

theorem admits_of_readWord {w : String} (hw : IsWord w) {as : List Setting}
    (h : readWord w = .ok (.sets as)) : ∀ a ∈ as, Admits a.1 a.2 := by
  rw [readWord] at h
  split at h
  next l _ =>
    obtain ⟨bs, hbs, heq⟩ := map_eq_ok_iff.1 h
    cases heq
    exact admits_settings (fun c hc => hw.2 c (List.mem_of_mem_drop hc)) hbs
  next => cases h

/-! ## What queries describe -/

/-- The words with what they say, one after the other. -/
theorem readings_eq_ok_iff {ws : List String} {rs : List (String × Reading)} :
    readings ws = .ok rs ↔ List.Forall₂ (fun w r => r.1 = w ∧ readWord w = .ok r.2) ws rs := by
  rw [readings, mapM_eq_ok_iff]
  refine iff_of_eq (congrArg (fun R => List.Forall₂ R ws rs) ?_)
  funext w r
  rw [eq_iff_iff, map_eq_ok_iff]
  constructor
  · rintro ⟨x, hx, rfl⟩
    exact ⟨rfl, hx⟩
  · rintro ⟨rfl, hr⟩
    exact ⟨r.2, hr, rfl⟩

/-- Words can be read if each of them can. -/
theorem exists_readings_iff {ws : List String} :
    (∃ rs, readings ws = .ok rs) ↔ ∀ w ∈ ws, ∃ r, readWord w = .ok r := by
  simp only [readings_eq_ok_iff]
  induction ws with
  | nil => simp
  | cons w ws ih =>
    rw [List.forall_mem_cons, ← ih]
    constructor
    · rintro ⟨rs, h⟩
      cases h with
      | cons hr hrest => exact ⟨⟨_, hr.2⟩, _, hrest⟩
    · rintro ⟨⟨r, hr⟩, rs, hrest⟩
      exact ⟨(w, r) :: rs, .cons ⟨rfl, hr⟩ hrest⟩

/-- What a query says comes from one of its words. -/
theorem exists_word_of_mem {ws : List String} {rs : List (String × Reading)}
    (h : readings ws = .ok rs) {r : String × Reading} (hr : r ∈ rs) :
    r.1 ∈ ws ∧ readWord r.1 = .ok r.2 := by
  have hall := readings_eq_ok_iff.1 h
  clear h
  induction hall with
  | nil => cases hr
  | @cons w r' ws rs hw _ ih =>
    rcases List.mem_cons.1 hr with rfl | hr
    · exact ⟨by simp [hw.1], by rw [hw.1]; exact hw.2⟩
    · exact ⟨by simp [(ih hr).1], (ih hr).2⟩

/-- **Every query that can be read describes a well-formed specification.** -/
theorem wellFormed_of_parse {query : String} {s : Spec} (h : parse query = .ok s) :
    WellFormed s := by
  obtain ⟨rs, hrs, rfl⟩ := map_eq_ok_iff.1 h
  have hfree : ∀ w ∈ freeWords rs, IsWord w ∧ IsFree w := by
    intro w hw
    obtain ⟨r, hr, hrw⟩ := List.mem_filterMap.1 hw
    obtain ⟨hmem, hread⟩ := exists_word_of_mem hrs hr
    cases hr2 : r.2 with
    | free =>
      obtain rfl : r.1 = w := by simpa [hr2] using hrw
      exact ⟨isWord_of_mem_words hmem, readWord_eq_free_iff.1 (by rw [hread, hr2])⟩
    | sets as => simp [hr2] at hrw
  have hsets : ∀ a ∈ allSettings rs, Admits a.1 a.2 := by
    intro a ha
    obtain ⟨r, hr, har⟩ := List.mem_flatMap.1 ha
    obtain ⟨hmem, hread⟩ := exists_word_of_mem hrs hr
    cases hr2 : r.2 with
    | free => simp [hr2] at har
    | sets as =>
      have hword := isWord_of_mem_words hmem
      exact admits_of_readWord hword (by rw [hread, hr2]) a (by simpa [hr2] using har)
  have hwords := words_joined fun w hw => (hfree w hw).1
  refine (wellFormed_unconstrained.foldl_set hsets).set ⟨_, rfl, ?_, ?_⟩
  · exact isJoined_joined fun w hw => (hfree w hw).1
  · rw [hwords]
    exact fun w hw => (hfree w hw).2

end SymbolSieve.Query
