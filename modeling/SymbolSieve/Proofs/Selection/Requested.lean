import SymbolSieve.Proofs.Query.WellFormed
import SymbolSieve.Proofs.Selection.Filters
import SymbolSieve.Service.Forms

/-!
# Where filters come from

Filters are the specifications whose fields are of their own kinds.  Those are exactly the ones that
a request can carry, because a request is checked field by field, and every query describes one.

## What is here

* `Filters.IsOwn`: the values of a field that are of its own kind; `exists_spec_eq_iff` says that
  filters are the specifications that have such values.
* `Filters.exists_spec_of_parse`: a query describes filters.
* `Filters.exists_read_iff`: filters are what a request can carry.
-/

set_option autoImplicit false

namespace SymbolSieve

open Query

namespace Filters

/-! ## Filters in specifications -/

/-- The values of a field that are of its own kind. -/
def IsOwn : Field → Value → Prop
  | .search, v | .kind, v | .state, v | .file, v => ∃ s, v = .text s
  | .minRefs, v | .maxRefs, v => v = .null ∨ ∃ n, v = .int n
  | .hasCallers, v | .hasCallees, v | .entry, v => v = .null ∨ ∃ b, v = .bool b

theorem exists_map_eq {α : Type} {f : α → Value} {v : Value} (h : v = .null ∨ ∃ a, v = f a) :
    ∃ o : Option α, v = (o.map f).getD .null := by
  rcases h with rfl | ⟨a, rfl⟩
  · exact ⟨none, rfl⟩
  · exact ⟨some a, rfl⟩

theorem isOwn_getD {α : Type} {f : α → Value} (o : Option α) :
    (o.map f).getD .null = .null ∨ ∃ a, (o.map f).getD .null = f a := by
  cases o with
  | none => exact .inl rfl
  | some a => exact .inr ⟨a, rfl⟩

/-- Filters are the specifications in which each field has a value of its own kind. -/
theorem exists_spec_eq_iff {s : Spec} : (∃ g : Filters, s = g.spec) ↔ s.Fieldwise IsOwn := by
  constructor
  · rintro ⟨g, rfl⟩ f
    cases f with
    | search | kind | state | file => exact ⟨_, rfl⟩
    | minRefs | maxRefs | hasCallers | hasCallees | entry => exact isOwn_getD _
  · intro h
    obtain ⟨search, hsearch⟩ := h .search
    obtain ⟨kind, hkind⟩ := h .kind
    obtain ⟨state, hstate⟩ := h .state
    obtain ⟨file, hfile⟩ := h .file
    obtain ⟨minRefs, hmin⟩ := exists_map_eq (h .minRefs)
    obtain ⟨maxRefs, hmax⟩ := exists_map_eq (h .maxRefs)
    obtain ⟨hasCallers, hcallers⟩ := exists_map_eq (h .hasCallers)
    obtain ⟨hasCallees, hcallees⟩ := exists_map_eq (h .hasCallees)
    obtain ⟨entry, hentry⟩ := exists_map_eq (h .entry)
    refine ⟨⟨search, kind, state, file, minRefs, maxRefs, hasCallers, hasCallees, entry⟩,
      Spec.ext_get fun f => ?_⟩
    cases f <;> assumption

theorem isOwn_of_admits {f : Field} {v : Value} (h : Admits f v) : IsOwn f v := by
  cases f with
  | search | file => obtain ⟨t, rfl, -⟩ := h; exact ⟨t, rfl⟩
  | kind => obtain ⟨k, -, rfl⟩ := h; exact ⟨k, rfl⟩
  | state =>
    rcases h with rfl | ⟨k, -, rfl⟩
    · exact ⟨_, rfl⟩
    · exact ⟨k, rfl⟩
  | minRefs | maxRefs =>
    rcases h with rfl | ⟨n, rfl, -⟩
    · exact .inl rfl
    · exact .inr ⟨n, rfl⟩
  | hasCallers | hasCallees | entry => exact h

/-- What a query describes are filters. -/
theorem exists_spec_of_parse {query : String} {s : Spec} (h : parse query = .ok s) :
    ∃ g : Filters, s = g.spec :=
  exists_spec_eq_iff.2 (Spec.Fieldwise.mono (wellFormed_of_parse h) fun _ _ => isOwn_of_admits)

/-! ## Filters in requests -/

theorem isOwn_default (f : Field) : IsOwn f f.default := by
  cases f with
  | search | kind | state | file => exact ⟨_, rfl⟩
  | minRefs | maxRefs | hasCallers | hasCallees | entry => exact .inl rfl

theorem isOwn_of_read {f : Field} {v w : Value} (h : f.read v = .ok w) : IsOwn f w := by
  cases f with
  | search | kind | state | file =>
    obtain ⟨s, -, rfl⟩ := map_eq_ok_iff.1 h
    exact ⟨s, rfl⟩
  | minRefs | maxRefs | hasCallers | hasCallees | entry =>
    obtain ⟨o, -, rfl⟩ := map_eq_ok_iff.1 h
    exact isOwn_getD o

theorem isOwn_of_withDefault {f : Field} {es : Entries} {w : Value}
    (h : Form.withDefault f.wireName f.default f.read es = .ok w) : IsOwn f w := by
  rw [Form.withDefault] at h
  split at h
  next v _ =>
    cases hread : f.read v with
    | ok x =>
      rw [hread] at h
      cases h
      exact isOwn_of_read hread
    | error cs =>
      rw [hread] at h
      cases h
  next =>
    cases h
    exact isOwn_default f

theorem both_eq_ok_iff {α β : Type} {x : Checked α} {y : Checked β} {p : α × β} :
    Checked.both x y = .ok p ↔ x = .ok p.1 ∧ y = .ok p.2 := by
  cases x <;> cases y <;> simp [Checked.both, Prod.ext_iff]

theorem gives_isOwn_of_readEntries {es : Entries} {fs : List Field} {es' : Entries}
    (h : readEntries es fs = .ok es') : Spec.Gives IsOwn es' := by
  induction fs generalizing es' with
  | nil => cases h; simp [Spec.Gives]
  | cons f fs ih =>
    obtain ⟨⟨w, rest⟩, hboth, rfl⟩ := map_eq_ok_iff.1 h
    obtain ⟨hw, hrest⟩ := both_eq_ok_iff.1 hboth
    intro e he f' hf'
    rcases List.mem_cons.1 he with rfl | he
    · obtain rfl : f = f' := by simpa using hf'
      exact isOwn_of_withDefault hw
    · exact ih hrest e he f' hf'

/-- The fields of filters are read as they are. -/
theorem read_get (g : Filters) (f : Field) : f.read (g.spec.get f) = .ok (g.spec.get f) := by
  obtain ⟨search, kind, state, file, minRefs, maxRefs, hasCallers, hasCallees, entry⟩ := g
  cases f with
  | search | kind | state | file => rfl
  | minRefs => cases minRefs <;> rfl
  | maxRefs => cases maxRefs <;> rfl
  | hasCallers => cases hasCallers <;> rfl
  | hasCallees => cases hasCallees <;> rfl
  | entry => cases entry <;> rfl

theorem readEntries_entries (g : Filters) (fs : List Field) :
    readEntries g.spec.entries fs = .ok (fs.map fun f => (f.wireName, g.spec.get f)) := by
  induction fs with
  | nil => rfl
  | cons f fs ih =>
    have hfound : Assoc.get? f.wireName g.spec.entries = some (g.spec.get f) := by cases f <;> rfl
    simp [readEntries, Form.withDefault, hfound, read_get, ih, Checked.within, Checked.both,
      Except.map]

/-- **Filters are what a request can carry.** -/
theorem exists_read_iff {s : Spec} : (∃ v, Spec.read v = .ok s) ↔ ∃ g : Filters, s = g.spec := by
  constructor
  · rintro ⟨v, hv⟩
    rw [exists_spec_eq_iff]
    cases v with
    | map es =>
      obtain ⟨es', hes', rfl⟩ := map_eq_ok_iff.1 hv
      exact (Spec.fieldwise_unconstrained isOwn_default).merge (gives_isOwn_of_readEntries hes')
    | _ => cases hv
  · rintro ⟨g, rfl⟩
    refine ⟨.map g.spec.entries, ?_⟩
    rw [Spec.read, Form.fields, readEntries_entries]
    exact congrArg Except.ok (Spec.merge_entries g.spec .unconstrained)

end Filters

end SymbolSieve
