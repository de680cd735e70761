import SymbolSieve.Engine.Chips
import SymbolSieve.Proofs.Assoc
import SymbolSieve.Proofs.Outcome

/-!
# Properties of fields

What is known about specifications is mostly known about each of their fields, and writing fields
keeps it if it is known about what is written.

## What is here

* `Spec.Fieldwise`: every field has a value with a property.
* `Spec.Gives`: entries that give fields only such values; `Fieldwise.merge` writes them.
* `exists_quickToggle`: what pressing a quick filter writes.
-/

set_option autoImplicit false

namespace SymbolSieve.Spec

/-- Every field has a value with a property. -/
def Fieldwise (P : Field → Value → Prop) (s : Spec) : Prop := ∀ f, P f (s.get f)

/-- Whatever field an entry names gets a value with a property. -/
def Gives (P : Field → Value → Prop) (es : Entries) : Prop :=
  ∀ e ∈ es, ∀ f, Field.ofName? e.1 = some f → P f e.2

variable {P Q : Field → Value → Prop}

theorem Fieldwise.mono {s : Spec} (hs : s.Fieldwise P) (h : ∀ f v, P f v → Q f v) :
    s.Fieldwise Q := fun f => h f _ (hs f)

theorem Gives.mono {es : Entries} (hes : Gives P es) (h : ∀ f v, P f v → Q f v) : Gives Q es :=
  fun e he f hf => h f _ (hes e he f hf)

theorem fieldwise_unconstrained (h : ∀ f : Field, P f f.default) : unconstrained.Fieldwise P := by
  intro f
  rw [get_unconstrained]
  exact h f

theorem Fieldwise.set {s : Spec} (hs : s.Fieldwise P) {f : Field} {v : Value} (hv : P f v) :
    (s.set f v).Fieldwise P := by
  intro g
  by_cases hg : g = f
  · subst hg
    rwa [get_set_self]
  · rw [get_set_of_ne s v hg]
    exact hs g

theorem Fieldwise.merge {s : Spec} {es : Entries} (hs : s.Fieldwise P) (hes : Gives P es) :
    (s.merge es).Fieldwise P := by
  induction es generalizing s with
  | nil => exact hs
  | cons e es ih =>
    refine ih ?_ fun e' he' => hes e' (by simp [he'])
    rw [mergeEntry]
    cases hf : Field.ofName? e.1 with
    | none => exact hs
    | some f => exact hs.set (hes e (by simp) f hf)

/-! ## Quick filters -/

theorem ofName?_of_ofAttributeName? {name : String} {f : Field}
    (h : Field.ofAttributeName? name = some f) : Field.ofName? name = some f := by
  obtain rfl : f.attributeName = name := by simpa using List.find?_some h
  exact Field.ofName?_attributeName f

/-- A quick filter that sets fields under their own names is active or not. -/
theorem exists_quickActive (s : Spec) {fields : Entries}
    (h : ∀ e ∈ fields, (Field.ofAttributeName? e.1).isSome = true) :
    ∃ active, s.quickActive fields = .ok active := by
  induction fields with
  | nil => exact ⟨true, rfl⟩
  | cons e fields ih =>
    obtain ⟨name, wanted⟩ := e
    obtain ⟨f, hf⟩ := Option.isSome_iff_exists.1 (h (name, wanted) (by simp))
    obtain ⟨active, hactive⟩ := ih fun e' he' => h e' (by simp [he'])
    refine ⟨if (s.get f).equal wanted then active else false, ?_⟩
    have hequal : s.nameEquals name wanted = .ok ((s.get f).equal wanted) := by
      rw [nameEquals, hf]
    rw [quickActive, hequal]
    cases (s.get f).equal wanted with
    | true => exact hactive
    | false => rfl

/-- **Pressing a quick filter** writes what it sets, or the defaults of the fields that it sets. -/
theorem exists_quickToggle (s : Spec) {fields : Entries}
    (h : ∀ e ∈ fields, (Field.ofAttributeName? e.1).isSome = true) :
    ∃ es, s.quickToggle fields = .ok es ∧
      (es = fields ∨ ∀ e ∈ es, ∃ f : Field, Field.ofName? e.1 = some f ∧ e.2 = f.default) := by
  obtain ⟨active, hactive⟩ := exists_quickActive s h
  rw [quickToggle, hactive]
  cases active with
  | false => exact ⟨fields, rfl, .inl rfl⟩
  | true =>
    refine ⟨_, rfl, .inr fun e he => ?_⟩
    obtain ⟨e', he', rfl⟩ := List.mem_map.1 (Assoc.mem_of_mem_ofPairs he)
    obtain ⟨f, hf⟩ := Option.isSome_iff_exists.1 (h e' he')
    exact ⟨f, ofName?_of_ofAttributeName? hf, by simp [hf]⟩

theorem gives_of_quickToggle {s : Spec} {fields es : Entries}
    (h : ∀ e ∈ fields, (Field.ofAttributeName? e.1).isSome = true) (hdefault : ∀ f, P f f.default)
    (hfields : Gives P fields) (hes : s.quickToggle fields = .ok es) : Gives P es := by
  obtain ⟨es', hes', hcases⟩ := exists_quickToggle s h
  obtain rfl : es = es' := Except.ok.inj (hes.symm.trans hes')
  rcases hcases with rfl | hdefaults
  · exact hfields
  · intro e he f hf
    obtain ⟨g, hg, hvalue⟩ := hdefaults e he
    obtain rfl : g = f := Option.some.inj (hg.symm.trans hf)
    rw [hvalue]
    exact hdefault g

end SymbolSieve.Spec
