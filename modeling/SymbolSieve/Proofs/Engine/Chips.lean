import Mathlib.Logic.Relation
import SymbolSieve.Proofs.Engine.Depth
import SymbolSieve.Proofs.Engine.Nested
import SymbolSieve.Proofs.Spec.Chips

/-!
# Chips and filters in step

Whoever removes the filter behind a chip expects to see the other chips afterwards and nothing else.
That is what a removal makes of the filters of an engine, whatever its storage does and whether the
removal returns or fails.  But listeners are told of it before it is over, and one of them may put
the filter back: the chip is there again when the removal returns.  So what is left is what the
removal leaves, and what listeners make of that.

## What is here

* `LeadsTo`: what changes of some kind can make of a specification.
* `Awaits`: the changes that listeners are going to make.
* `Accompanied`: what listeners do to the filters of an engine; `inherited_accompanied`, nothing
  else that goes on during a change does more.
* `Undisturbed`: no listener answers with a change.  `quietly_deliverAll`, `specs_change`: then a
  change leaves just what it makes.
* `Leaves`: what a removal leaves of the filters of an engine.
* `removeEach`: removals one after the other.
* `InStep`: what is expected of chips and filters.  `chips_in_step`: it holds in all sessions.
* `ShowsOthers`: what one would expect first.  `not_showsOthers_stubborn`: a listener can prevent it.
-/

set_option autoImplicit false

namespace SymbolSieve

/-- Changes of some kind lead from one specification to another. -/
def Spec.LeadsTo (allows : Change → Prop) : Spec → Spec → Prop :=
  Relation.ReflTransGen fun s t => ∃ c, allows c ∧ t = s.after c

namespace Session

open Spec (LeadsTo Cleared Chip chipFields)

variable {allows : Change → Prop} {name : String} {s t u : Session}

/-! ## Listeners during a change -/

/-- A change that a listener is going to make when it is called. -/
def Awaits (s : Session) (c : Change) : Prop :=
  ∃ b ∈ s.behaviors, ∃ rs ∈ b.2.script, Reaction.change c ∈ rs

theorem scripted_awaits (s : Session) : Scripted s.Awaits s.behaviors :=
  fun b hb rs hrs _ hc => ⟨b, hb, rs, hrs, hc⟩

/-- The filters of an engine have changed only as listeners are allowed to change them, and they are
not going to change them in other ways. -/
structure Accompanied (allows : Change → Prop) (name : String) (s t : Session) : Prop where
  scripts : Scripted allows t.behaviors
  filters : (s.view.specs name).LeadsTo allows (t.view.specs name)

theorem Accompanied.refl (hs : Scripted allows s.behaviors) : Accompanied allows name s s :=
  ⟨hs, .refl⟩

theorem Accompanied.trans (hst : Accompanied allows name s t) (htu : Accompanied allows name t u) :
    Accompanied allows name s u :=
  ⟨htu.scripts, hst.filters.trans htu.filters⟩

theorem Quietly.accompanied {called : List Value} (hst : Quietly name called s t)
    (ht : Scripted allows t.behaviors) : Accompanied allows name s t where
  scripts := ht
  filters := by
    rw [specs_view, specs_view, hst.spec]
    exact .refl

/-- What a change makes of the filters of an engine, before anybody is told. -/
theorem specs_alter (name : String) (c : Change) (s : Session) :
    (alter (.text name) c s).2.view.specs name = (s.view.specs name).after c := by
  rw [specs_view, specs_view]
  cases happly : c.apply (s.engineOf (.text name)).spec with
  | ok spec => exact (spec_alter_of_ok happly).trans (Spec.after_of_ok happly).symm
  | error fault =>
    have hfault : (alter (.text name) c s).1 = .error fault := by
      rw [result_alter, happly]
      rfl
    rw [Spec.after_of_error happly]
    exact (quietly_alter_of_error hfault).spec

theorem accompanied_persist (hs : Scripted allows s.behaviors) :
    Accompanied allows name s (persist (.text name) s).2 := by
  obtain ⟨d, hd⟩ := persist_cases (.text name) s
  rw [hd]
  exact ⟨hs, .refl⟩

theorem accompanied_nextReactions (listener : Value) (hs : Scripted allows s.behaviors) :
    Accompanied allows name s (nextReactions listener s).2 := by
  refine (quietly_nextReactions listener s).accompanied ?_
  rw [nextReactions_eq]
  exact (hs.nextOf listener).2

/-- **Nothing that goes on during a change** does more to filters than listeners do. -/
theorem inherited_accompanied (allows : Change → Prop) (name : String) :
    Inherited
      (fun op => ∀ s, Scripted allows s.behaviors → Accompanied allows name s (op s).2) allows
      (.text name) where
  pure _ _ hs := .refl hs
  bind hop hk s hs := (hop s hs).trans (hk _ _ (hop s hs).scripts)
  report level message s hs := (quietly_report level message s).accompanied hs
  subscribe listener s hs :=
    (quietly_subscribe listener {} s).accompanied (scripted_subscribe listener hs)
  unsubscribe listener s hs :=
    (quietly_unsubscribe listener s).accompanied (by rwa [behaviors_unsubscribe])
  hear listener s hs := (quietly_hear listener s).accompanied hs
  nextReactions listener k hk s hs := by
    have hasked : Accompanied allows name s (nextReactions listener s).2 :=
      accompanied_nextReactions listener hs
    have hrun := hk (nextReactions listener s).1 (by
      rw [nextReactions_eq]
      exact (hs.nextOf listener).1)
    exact hasked.trans (hrun _ hasked.scripts)
  alter {c} hc s hs :=
    ⟨by rwa [behaviors_alter], .single ⟨c, hc, specs_alter name c s⟩⟩
  persist _ hs := accompanied_persist hs
  listeners hk s hs := hk _ s hs

/-- Once its filters are altered, what is left of a change is up to listeners. -/
theorem accompanied_change (name : String) (c : Change) (hs : Scripted allows s.behaviors) :
    Accompanied allows name (alter (.text name) c s).2 (change (.text name) c s).2 := by
  have hP := inherited_accompanied allows name
  have haltered : Scripted allows (alter (.text name) c s).2.behaviors := by rwa [behaviors_alter]
  rw [change_apply, changeBy_apply]
  generalize alter (.text name) c s = altered at haltered ⊢
  obtain ⟨fault | _, t⟩ := altered
  · exact .refl haltered
  · have hstored := hP.persist t haltered
    dsimp only
    generalize persist (.text name) t = stored at hstored ⊢
    obtain ⟨fault | _, u⟩ := stored
    · exact hstored
    · exact hstored.trans
        (hP.announce (fun c hc => hP.changeWithin s.pending hc) u hstored.scripts)

/-! ## Changes that no listener answers with another one -/

/-- No listener has used up a change from one session to the other. -/
def Undisturbed (s t : Session) : Prop := t.pending = s.pending

/-- Nor has one up to any session between these, or after that. -/
theorem Undisturbed.between (h : Undisturbed s u) (hst : t.pending ≤ s.pending)
    (htu : u.pending ≤ t.pending) : Undisturbed s t ∧ Undisturbed t u := by
  simp only [Undisturbed] at h ⊢
  omega

section Undisturbed

variable {f : Change → StateM Session (Except ValueFault Unit)}

theorem quietly_reactAll {rs : List Reaction} (hrs : rs.countP Reaction.isChange = 0)
    (s : Session) : Quietly name [] s (reactAll f (.text name) rs s).2 := by
  induction rs generalizing s with
  | nil => exact .refl s
  | cons r rs ih =>
    cases r with
    | change c => simp [Reaction.isChange] at hrs
    | quiet q =>
      have hrest : rs.countP Reaction.isChange = 0 := by simpa [Reaction.isChange] using hrs
      have hfirst : Quietly name [] s (react f (.text name) (.quiet q) s).2 := quietly_react f q s
      rw [reactAll_cons_apply]
      split
      next => exact hfirst.trans (ih hrest _)
      next => exact hfirst

theorem quietly_respond (listener : Value) {rs : List Reaction}
    (hrs : rs.countP Reaction.isChange = 0) (s : Session) :
    Quietly name [] s (respond f (.text name) listener rs s).2 := by
  have hreactions : Quietly name [] s (reactAll f (.text name) rs s).2 := quietly_reactAll hrs s
  rw [respond_apply]
  split
  next => exact hreactions
  next => exact hreactions.trans (quietly_report _ _ _)

variable (hpending : ∀ c s, (f c s).2.pending ≤ s.pending)
include hpending

theorem quietly_deliver {listener : Value}
    (h : Undisturbed s (deliver f (.text name) listener s).2) :
    Quietly name [listener] s (deliver f (.text name) listener s).2 := by
  have hheard : (hear (.text name) listener s).2.pending = s.pending := rfl
  have hnext := pending_nextReactions listener (hear (.text name) listener s).2
  have hasked : Quietly name [listener] s _ :=
    (quietly_hear listener s).trans (quietly_nextReactions listener _)
  rw [deliver_apply, Undisturbed] at h
  rw [deliver_apply]
  generalize nextReactions listener (hear (.text name) listener s).2 = asked at h hnext hasked ⊢
  have hle := (inherited_pending (.text name)).respond (fun c _ => hpending c) listener
    (fun _ _ => trivial : AllChanges (fun _ => True) asked.1) asked.2
  exact hasked.trans (quietly_respond listener (by omega) asked.2)

/-- **An announcement** changes no filters if no listener uses up a change meanwhile. -/
theorem quietly_deliverAll {ls : List Value}
    (h : Undisturbed s (deliverAll f (.text name) ls s).2) :
    Quietly name ls s (deliverAll f (.text name) ls s).2 := by
  induction ls generalizing s with
  | nil => exact .refl s
  | cons l ls ih =>
    have hP := inherited_pending (.text name)
    have hfirst := hP.deliver (fun c _ => hpending c) l s
    have hrest := hP.deliverAll (fun c _ => hpending c) ls (deliver f (.text name) l s).2
    have hrun : deliverAll f (.text name) (l :: ls) s =
        deliverAll f (.text name) ls (deliver f (.text name) l s).2 := rfl
    rw [hrun] at h ⊢
    obtain ⟨hl, hls⟩ := h.between hfirst hrest
    exact (quietly_deliver hpending hl).trans (ih hls)

end Undisturbed

theorem pending_change (name : Value) (c : Change) (s : Session) :
    (change name c s).2.pending ≤ s.pending :=
  (inherited_pending name).changeWithin _ trivial s

/-- **A change that no listener answers with another one** leaves what it makes of the filters. -/
theorem specs_change {c : Change} (h : Undisturbed s (change (.text name) c s).2) :
    (change (.text name) c s).2.view.specs name = (s.view.specs name).after c := by
  have haltered : (alter (.text name) c s).2.pending = s.pending := by
    rw [pending_eq, behaviors_alter, pending_eq]
  rw [← specs_alter]
  rw [Undisturbed, ← haltered] at h
  rw [change_apply, changeBy_apply] at h ⊢
  generalize alter (.text name) c s = altered at h ⊢
  obtain ⟨fault | _, t⟩ := altered
  · rfl
  · obtain ⟨d, hd⟩ := persist_cases (.text name) t
    dsimp only at h ⊢
    generalize persist (.text name) t = stored at hd h ⊢
    obtain ⟨fault | _, u⟩ := stored
    · obtain rfl : u = _ := hd
      rfl
    · obtain rfl : u = _ := hd
      exact (quietly_deliverAll
        (fun c => (inherited_pending (.text name)).changeWithin s.pending trivial) h).spec

/-! ## Removals -/

/-- What the removal of a filter leaves of the filters of an engine: at first these, and when it is
over, what listeners make of them. -/
structure Leaves (name : String) (key : Value) (s : Session) (left : Spec) : Prop where
  /-- Before anything is stored and anybody is told. -/
  atFirst : (alter (.text name) (.removeFilter key) s).2.view.specs name = left
  /-- Whether it returns or fails. -/
  ended : left.LeadsTo s.Awaits ((change (.text name) (.removeFilter key) s).2.view.specs name)
  undisturbed : Undisturbed s (change (.text name) (.removeFilter key) s).2 →
    (change (.text name) (.removeFilter key) s).2.view.specs name = left

theorem leaves_removal (name : String) (key : Value) (s : Session) :
    Leaves name key s ((s.view.specs name).after (.removeFilter key)) := by
  have haltered := specs_alter name (.removeFilter key) s
  have hended := (accompanied_change name (.removeFilter key) (scripted_awaits s)).filters
  rw [haltered] at hended
  exact ⟨haltered, hended, specs_change⟩

/-- The filters behind some keys are removed one after the other, whether that goes well or not. -/
def removeEach (name : String) : List Value → StateM Session Unit
  | [] => pure ()
  | key :: keys => do
    let _ ← change (.text name) (.removeFilter key)
    removeEach name keys

theorem removeEach_cons_apply (key : Value) (keys : List Value) (s : Session) :
    removeEach name (key :: keys) s =
      removeEach name keys (change (.text name) (.removeFilter key) s).2 := rfl

theorem pending_removeEach (name : String) (keys : List Value) (s : Session) :
    (removeEach name keys s).2.pending ≤ s.pending := by
  induction keys generalizing s with
  | nil => exact Nat.le_refl _
  | cons key keys ih =>
    rw [removeEach_cons_apply]
    exact (ih _).trans (pending_change ..)

/-- **Removals one after the other**, none of which a listener answers with a change. -/
theorem specs_removeEach {keys : List Value} (h : Undisturbed s (removeEach name keys s).2) :
    (removeEach name keys s).2.view.specs name = (s.view.specs name).withoutEach keys := by
  induction keys generalizing s with
  | nil => rfl
  | cons key keys ih =>
    have hfirst := pending_change (.text name) (.removeFilter key) s
    have hrest := pending_removeEach name keys (change (.text name) (.removeFilter key) s).2
    rw [removeEach_cons_apply] at h ⊢
    obtain ⟨hkey, hkeys⟩ := h.between hfirst hrest
    rw [ih hkeys, specs_change hkey]
    rfl

/-! ## In step -/

/-- What is expected of the chips and filters of an engine. -/
structure InStep (name : String) (s : Session) : Prop where
  /-- Removing the filter behind a chip takes this chip away. The others stay in their order and
  with their values and labels, and so do the other fields. -/
  one : ∀ before c rest, (s.view.specs name).chips = .ok (before ++ c :: rest) →
    ∃ left, Leaves name c.key s left ∧ left.chips = .ok (before ++ rest) ∧
      ∀ f, f ≠ c.field → left.get f = (s.view.specs name).get f
  /-- A key that belongs to no chip removes nothing. -/
  other : ∀ key, (∀ f ∈ chipFields, key ≠ .text f.wireName) →
    Leaves name key s (s.view.specs name)
  /-- When the filters behind all chips have been removed, in whatever order, nothing is left that
  has a chip. -/
  all : ∀ chips order : List Chip, (s.view.specs name).chips = .ok chips → order.Perm chips →
    Undisturbed s (removeEach name (order.map Chip.key) s).2 →
    Cleared (s.view.specs name) ((removeEach name (order.map Chip.key) s).2.view.specs name)

/-- **Chips and filters stay in step** in all sessions. -/
theorem chips_in_step (name : String) (s : Session) : InStep name s where
  one before c rest h := by
    obtain ⟨hchips, hothers⟩ := Spec.chips_after_removal h
    exact ⟨_, leaves_removal name c.key s, hchips, hothers⟩
  other key hkey := by
    have hleaves := leaves_removal name key s
    rwa [Spec.after_of_no_chipKey _ hkey] at hleaves
  all chips order h hperm hundisturbed := by
    rw [specs_removeEach hundisturbed]
    exact Spec.cleared_withoutEach h hperm

/-! ## Listeners that put filters back -/

/-- What one would expect first: whoever removes the filter behind a chip sees the other chips when
that is over. -/
def ShowsOthers (name : String) (s : Session) : Prop :=
  ∀ before c rest, (s.view.specs name).chips = .ok (before ++ c :: rest) →
    ((change (.text name) (.removeFilter c.key) s).2.view.specs name).chips = .ok (before ++ rest)

/-- A listener that asks for enumerations when it is called for the first time. -/
def stubborn : Session where
  engines := [(.text "main", { spec := { kind := .text "enum" }, listeners := [.text "a"] })]
  behaviors := [(.text "a", { script := [[.change (.query (.text "kind:enum"))]] })]
  subscriptions := [(.text "a", .text "main")]

/-- **The chip is there again** when its removal is over. -/
theorem not_showsOthers_stubborn : ¬ ShowsOthers "main" stubborn := by
  intro h
  have hagain : (((change (.text "main") (.removeFilter (.text "kind")) stubborn).2.view.specs
      "main").chips.map List.length).toOption = some 1 := by decide +kernel
  have hshown := h [] ⟨.kind, .text "enum", "kind:enum"⟩ [] rfl
  rw [show Chip.key _ = .text "kind" from rfl] at hshown
  rw [hshown] at hagain
  cases hagain

end Session

end SymbolSieve
