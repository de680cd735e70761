import SymbolSieve.Proofs.Engine.Changes
import SymbolSieve.Proofs.Engine.Chips
import SymbolSieve.Proofs.Query.Activity

/-!
# Filters that are active after a query

A dashboard, whoever saves a preset and a user each have their own way to see whether filters are
active.  One would expect them to agree as soon as a query has been applied to an engine.  They do,
unless the query sets the entry field to false: then filters are active although the canonical query
may be empty and there may be neither a search text nor a chip.

Listeners that answer with changes of their own make no difference to that, as long as they give no
field a value of another kind.

## What is here

* `Change.KeepsProper`: changes that give fields proper values only; `proper_after`, they keep
  filters proper.
* `SettlesInAccord`: what is left of an engine when a query has been applied.
* `query_in_accord`: this is what is left in all sessions.
* `not_active_iff_query`: without the case of an entry field that is false, the places do not agree;
  `not_inAccord_answered`, nor do they if a listener gives the search a value that is no text.
-/

set_option autoImplicit false

namespace SymbolSieve

/-! ## Changes that keep filters proper -/

/-- A change that gives fields proper values only. -/
def Change.KeepsProper : Change → Prop
  | .update fields => Spec.Gives IsProper fields
  | _ => True

variable {c : Change} {s t : Spec}

/-- A change that can be made keeps to proper values, if its updates do. -/
theorem Change.KeepsProper.within (hc : c.KeepsProper) (h : c.apply s = .ok t) :
    c.Within IsProper := by
  cases c with
  | update fields => exact hc
  | reset => trivial
  | query q => exact ⟨t, h⟩
  | removeFilter key =>
    show key.isKey = true
    rw [apply, withoutFilter.eq_def] at h
    split at h
    next => rfl
    next =>
      split at h
      next hkey => exact hkey
      next => cases h

/-- **Filters stay proper** under changes that give fields proper values only. -/
theorem proper_after (hc : c.KeepsProper) (hs : s.Fieldwise IsProper) :
    (s.after c).Fieldwise IsProper := by
  cases h : c.apply s with
  | error fault => rwa [Spec.after_of_error h]
  | ok t =>
    obtain ⟨t', ht', hproper⟩ := (hc.within h).exists_apply (fun _ _ => isProper_of_admits) hs
    rwa [Spec.after_of_ok ht']

theorem proper_of_leadsTo {allows : Change → Prop} (hallows : ∀ c, allows c → c.KeepsProper)
    (h : s.LeadsTo allows t) (hs : s.Fieldwise IsProper) : t.Fieldwise IsProper := by
  induction h with
  | refl => exact hs
  | tail _ hstep ih =>
    obtain ⟨c, hc, rfl⟩ := hstep
    exact proper_after (hallows c hc) ih

namespace Session

/-! ## Queries that are applied -/

/-- What is left of an engine when a query has been applied that describes some filters. -/
structure SettlesInAccord (name query : String) (s : Session) (described : Spec) : Prop where
  /-- Before anything is stored and anybody is told, there are the filters of the query, and all
  places agree on them. -/
  atFirst : (alter (.text name) (.query (.text query)) s).2.view.specs name = described ∧
    InAccord described
  /-- When it is over, whether it returns or fails, these are still there if no listener has
  answered with a change. -/
  undisturbed : Undisturbed s (change (.text name) (.query (.text query)) s).2 →
    (change (.text name) (.query (.text query)) s).2.view.specs name = described
  /-- All places agree on what there is then, if no listener gives fields improper values. -/
  ended : (∀ c, s.Awaits c → c.KeepsProper) →
    InAccord ((change (.text name) (.query (.text query)) s).2.view.specs name)

/-- **All places agree whether filters are active** when a query has been applied to an engine. -/
theorem query_in_accord {query : String} {described : Spec}
    (h : Query.parse query = .ok described) (name : String) (s : Session) :
    SettlesInAccord name query s described := by
  have hproper : described.Fieldwise IsProper :=
    Spec.Fieldwise.mono (Query.wellFormed_of_parse h) fun _ _ => isProper_of_admits
  have hafter : ∀ s : Spec, s.after (.query (.text query)) = described :=
    fun _ => Spec.after_of_ok h
  have haltered := specs_alter name (.query (.text query)) s
  rw [hafter] at haltered
  refine ⟨⟨haltered, inAccord_of_proper hproper⟩, fun hundisturbed => ?_, fun hanswers => ?_⟩
  · rw [specs_change hundisturbed, hafter]
  · have hended := (accompanied_change name (.query (.text query)) (scripted_awaits s)).filters
    rw [haltered] at hended
    exact inAccord_of_proper (proper_of_leadsTo hanswers hended hproper)

theorem parse_entryFalse : Query.parse "entry:false" = .ok { entry := .bool false } := rfl

/-- A query with an entry field that is false, applied to an engine with a listener that answers
with a query of its own. -/
theorem query_in_accord_stubborn :
    Query.parse "entry:false" = .ok { entry := .bool false } ∧
      InAccord ((change (.text "main") (.query (.text "entry:false")) stubborn).2.view.specs
        "main") := by
  refine ⟨parse_entryFalse, (query_in_accord parse_entryFalse "main" stubborn).ended ?_⟩
  rintro c ⟨b, hb, rs, hrs, hc⟩
  obtain rfl := List.mem_singleton.1 hb
  obtain rfl := List.mem_singleton.1 hrs
  obtain rfl := Reaction.change.inj (List.mem_singleton.1 hc)
  trivial

/-- **An entry field that is false** makes filters active that no query writes and no chip shows. -/
theorem not_active_iff_query :
    Query.parse "entry:false" = .ok { entry := .bool false } ∧
      (change (.text "main") (.query (.text "entry:false")) {}).2.view.specs "main" =
        { entry := .bool false } ∧
      Spec.isDefault { entry := .bool false } = false ∧
      Query.canonical { entry := .bool false } = .ok "" ∧
      Spec.search { entry := .bool false } = .text "" ∧
      Spec.chips { entry := .bool false } = .ok [] := by
  refine ⟨parse_entryFalse, ?_, rfl, rfl, rfl, rfl⟩
  have hundisturbed : Undisturbed {} (change (.text "main") (.query (.text "entry:false")) {}).2 :=
    Nat.eq_zero_of_le_zero (pending_change ..)
  rw [specs_change hundisturbed]
  rfl

/-- A listener that takes the text out of the search when it is called for the first time. -/
def careless : Session where
  engines := [(.text "main", { listeners := [.text "a"] })]
  behaviors := [(.text "a", { script := [[.change (.update [("search", .null)])]] })]
  subscriptions := [(.text "a", .text "main")]

/-- **A listener that gives a field an improper value** keeps the places from agreeing. -/
theorem not_inAccord_answered :
    ¬ InAccord ((change (.text "main") (.query (.text "")) careless).2.view.specs "main") := by
  have hleft : (let left := (change (.text "main") (.query (.text "")) careless).2.view.specs "main"
      !left.isDefault && left.entry.isNull && (Query.canonical left).toOption == some "") =
        true := by decide +kernel
  generalize (change (.text "main") (.query (.text "")) careless).2.view.specs "main" = left
    at hleft ⊢
  simp only [Bool.and_eq_true, Bool.not_eq_true', beq_iff_eq] at hleft
  obtain ⟨⟨hdefault, hentry⟩, hempty⟩ := hleft
  rintro ⟨query, chips, hquery, -, hactive, -⟩
  rw [hquery] at hempty
  obtain rfl : query = "" := Option.some.inj hempty
  rcases hactive.1 hdefault with hne | hfalse
  · exact hne rfl
  · rw [hfalse] at hentry
    cases hentry

end Session

end SymbolSieve
