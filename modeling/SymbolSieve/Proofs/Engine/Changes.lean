import SymbolSieve.Proofs.Engine.Acts
import SymbolSieve.Proofs.Query.WellFormed

/-!
# What changes keep

A property that all values have which a query can give to a field is kept by every change that gives
fields only values with the property.  So what is known of the filters of all engines stays known
over a run, whatever is done, as long as updates and quick filters keep to it.

## What is here

* `Change.Within`, `Act.Within`: the changes and acts that keep to a property; `exists_apply` says
  that such a change can be made and keeps the property.
* `Change.Gives`: the changes that keep to a property whichever field it is, if they can be made.
* `Act.mutated?`: the engine whose filters an act changes.
* `within_quickFilters`: the quick filters of the dashboard keep to whatever queries keep to.
-/

set_option autoImplicit false

namespace SymbolSieve

open Query

/-! ## Changes -/

/-- A change that can be made, and that gives fields only values with a property. -/
def Change.Within (P : Field → Value → Prop) : Change → Prop
  | .update fields => Spec.Gives P fields
  | .reset => True
  | .query q => ∃ s, parseValue q = .ok s
  | .removeFilter key => key.isKey = true

variable {P : Field → Value → Prop}

theorem wellFormed_of_parseValue {q : Value} {s : Spec} (h : parseValue q = .ok s) :
    WellFormed s := by
  cases q with
  | text query => exact wellFormed_of_parse h
  | _ =>
    obtain rfl := Except.ok.inj h
    exact wellFormed_unconstrained

/-- **A change that keeps to a property** can be made, and keeps the property. -/
theorem Change.Within.exists_apply (hP : ∀ f v, Admits f v → P f v) {c : Change} {s : Spec}
    (hc : c.Within P) (hs : s.Fieldwise P) : ∃ t, c.apply s = .ok t ∧ t.Fieldwise P := by
  have hdefault : ∀ f : Field, P f f.default := fun f => hP f _ (admits_default f)
  cases c with
  | update fields => exact ⟨_, rfl, hs.merge hc⟩
  | reset => exact ⟨_, rfl, Spec.fieldwise_unconstrained hdefault⟩
  | query q =>
    obtain ⟨t, ht⟩ := hc
    exact ⟨t, ht, Spec.Fieldwise.mono (wellFormed_of_parseValue ht) hP⟩
  | removeFilter key =>
    have hkey : key.isKey = true := hc
    have hset : ∀ f : Field, (s.set f f.default).Fieldwise P := fun f => hs.set (hdefault f)
    cases key with
    | text name =>
      rw [Change.apply, Change.withoutFilter]
      split
      · exact ⟨s, rfl, hs⟩
      · exact ⟨s, rfl, hs⟩
      · exact ⟨_, rfl, hset _⟩
    | _ =>
      refine ⟨s, ?_, hs⟩
      rw [Change.apply, Change.withoutFilter, if_pos hkey]
      exact fun name h => nomatch h

/-- A change that gives fields only values with a property, whichever field it is. -/
def Change.Gives (P : Value → Prop) : Change → Prop
  | .update fields => Spec.Gives (fun _ => P) fields
  | _ => True

section Values

variable {P : Value → Prop}

/-- **A change that gives values with a property** leaves only such values, if it can be made. -/
theorem Change.Gives.apply (hP : ∀ f v, Admits f v → P v) {c : Change} (hc : c.Gives P)
    {s t : Spec} (hs : s.Fieldwise fun _ => P) (h : c.apply s = .ok t) :
    t.Fieldwise fun _ => P := by
  have hdefault : ∀ f : Field, P f.default := fun f => hP f _ (admits_default f)
  cases c with
  | update fields =>
    obtain rfl := Except.ok.inj h
    exact hs.merge hc
  | reset =>
    obtain rfl := Except.ok.inj h
    exact Spec.fieldwise_unconstrained hdefault
  | query q => exact Spec.Fieldwise.mono (wellFormed_of_parseValue h) hP
  | removeFilter key =>
    rw [Change.apply, Change.withoutFilter.eq_def] at h
    split at h
    next =>
      split at h
      next => exact Except.ok.inj h ▸ hs
      next => exact Except.ok.inj h ▸ hs
      next f _ _ => exact Except.ok.inj h ▸ hs.set (hdefault f)
    next =>
      split at h
      next => exact Except.ok.inj h ▸ hs
      next => cases h

/-- Pressing a quick filter gives the values that it sets, or defaults. -/
theorem gives_of_quickToggle (hP : ∀ f v, Admits f v → P v) {s : Spec} {fields es : Entries}
    (hfields : Spec.Gives (fun _ => P) fields) (h : s.quickToggle fields = .ok es) :
    Spec.Gives (fun _ => P) es := by
  obtain ⟨active, -, hes⟩ := bind_eq_ok_iff.1 h
  cases active with
  | false => exact Except.ok.inj hes ▸ hfields
  | true =>
    obtain rfl := Except.ok.inj hes
    intro e he f _
    obtain ⟨e', -, rfl⟩ := List.mem_map.1 (Assoc.mem_of_mem_ofPairs he)
    cases Field.ofAttributeName? e'.1 with
    | none => exact hP .hasCallers _ (.inl rfl)
    | some g => exact hP g _ (admits_default g)

end Values

/-! ## Acts -/

namespace Session

/-- An act that changes filters only so that a property is kept, and that writes no filters into the
document. -/
def Act.Within (P : Field → Value → Prop) : Act → Prop
  | .change _ c => c.Within P
  | .toggle _ fields =>
    Spec.Gives P fields ∧ ∀ e ∈ fields, (Field.ofAttributeName? e.1).isSome = true
  | .applyPreset _ p => ∃ s, parse p.query = .ok s
  | .write path _ => (Document.keysOf path).head? ≠ some "filters"
  | _ => True

/-- The engine whose filters an act changes. -/
def Act.mutated? : Act → Option String
  | .change e _ | .toggle e _ | .applyPreset e _ => some e
  | .bucket e choice => if (Spec.bucket? choice).isSome then some e else none
  | _ => none

/-- The bounds of a bucket are numbers that a query can give, or none. -/
theorem gives_bucketEntries {choice : String} {b : Vocabulary.RefsBucket}
    (h : Spec.bucket? choice = some b) : Spec.Gives Admits (Spec.bucketEntries b) := by
  have hsmall : ∀ b ∈ Vocabulary.refsBuckets, ∀ n ∈ b.min.toList ++ b.max.toList,
      n.natAbs < 10 ^ 2 := by decide
  have hlimit : ∀ m : Nat, m < 10 ^ 2 → m < 10 ^ digitLimit := fun m hm =>
    hm.trans_le (Nat.pow_le_pow_right (by decide) (by decide))
  have hbound : ∀ n : Option Int, n.toList ⊆ b.min.toList ++ b.max.toList →
      Vocabulary.bound n = .null ∨
        ∃ m : Int, Vocabulary.bound n = .int m ∧ m.natAbs < 10 ^ digitLimit := by
    intro n hn
    cases n with
    | none => exact .inl rfl
    | some m =>
      have hm := hsmall b (List.mem_of_find?_eq_some h) m (hn (by simp))
      exact .inr ⟨m, rfl, hlimit _ hm⟩
  intro e he f hf
  rcases (by simpa [Spec.bucketEntries] using he : e = _ ∨ e = _) with rfl | rfl
  · obtain rfl : Field.minRefs = f := Option.some.inj hf
    exact hbound b.min (by simp)
  · obtain rfl : Field.maxRefs = f := Option.some.inj hf
    exact hbound b.max (by simp)

/-- Whatever an act that keeps to a property comes down to keeps to it. -/
theorem Act.Within.change (hP : ∀ f v, Admits f v → P f v) {a : Act} {v : View} {e : String}
    {c : Change} (ha : a.Within P) (hc : a.change? v = some (e, c)) : c.Within P := by
  cases a with
  | change e' c' =>
    obtain ⟨-, rfl⟩ : e' = e ∧ c' = c := by simpa [Act.change?] using hc
    exact ha
  | toggle e' fields =>
    obtain ⟨es, hes, -⟩ := Spec.exists_quickToggle (v.specs e') ha.2
    obtain ⟨-, rfl⟩ : e' = e ∧ Change.update es = c := by
      simpa [Act.change?, hes, Except.toOption] using hc
    exact Spec.gives_of_quickToggle ha.2 (fun f => hP f _ (admits_default f)) ha.1 hes
  | bucket e' choice =>
    obtain ⟨b, hb, -, rfl⟩ : ∃ b, Spec.bucket? choice = some b ∧ e' = e ∧
        Change.update (Spec.bucketEntries b) = c := by simpa [Act.change?] using hc
    exact (gives_bucketEntries hb).mono hP
  | applyPreset e' p =>
    obtain ⟨-, rfl⟩ : e' = e ∧ Change.query (.text p.query) = c := by simpa [Act.change?] using hc
    exact ha
  | _ => cases hc

/-- An act that keeps to a property comes down to a change where it changes filters, and nowhere
else. -/
theorem Act.Within.mutated?_eq {a : Act} (ha : a.Within P) (v : View) :
    a.mutated? = (a.change? v).map Prod.fst := by
  cases a with
  | toggle e fields =>
    obtain ⟨es, hes, -⟩ := Spec.exists_quickToggle (v.specs e) ha.2
    simp [Act.change?, Act.mutated?, hes, Except.toOption]
  | bucket e choice =>
    cases hb : Spec.bucket? choice <;> simp [Act.change?, Act.mutated?, hb]
  | _ => rfl

/-- A quick filter that sets one field keeps to a property of the value that it sets. -/
theorem within_toggle {f : Field} {v : Value} (hv : P f v) (e : String) :
    (Act.toggle e [(f.attributeName, v)]).Within P := by
  refine ⟨fun e' he' g hg => ?_, fun e' he' => ?_⟩
  · obtain rfl := List.mem_singleton.1 he'
    obtain rfl : f = g := Option.some.inj ((Field.ofName?_attributeName f).symm.trans hg)
    exact hv
  · obtain rfl := List.mem_singleton.1 he'
    cases f <;> rfl

/-- **The quick filters of the dashboard** keep to whatever queries keep to. -/
theorem within_quickFilters (hP : ∀ f v, Admits f v → P f v) {q : Vocabulary.QuickFilter}
    (hq : q ∈ Vocabulary.quickFilters) (e : String) : (Act.toggle e q.fields).Within P := by
  simp only [Vocabulary.quickFilters, List.mem_cons, List.not_mem_nil, or_false] at hq
  rcases hq with rfl | rfl | rfl | rfl | rfl | rfl
  · exact within_toggle (f := .kind) (hP _ _ ⟨"function", by decide, rfl⟩) e
  · exact within_toggle (f := .kind) (hP _ _ ⟨"struct", by decide, rfl⟩) e
  · exact within_toggle (f := .state) (hP _ _ (.inr ⟨"dead", by decide, rfl⟩)) e
  · exact within_toggle (f := .state) (hP _ _ (.inr ⟨"cycle", by decide, rfl⟩)) e
  · exact within_toggle (f := .entry) (hP _ _ (.inr ⟨true, rfl⟩)) e
  · exact within_toggle (f := .hasCallers) (hP _ _ (.inr ⟨false, rfl⟩)) e

end Session

end SymbolSieve
