import SymbolSieve.Proofs.Engine.Chips

/-!
# Changes that win over an update

An update may come as a mapping of fields together with changes by name, which are meant to win: one
would expect the same filters as from the mapping alone and then the changes.  But the two are put
together under their names before anybody asks which fields these belong to, and a name keeps the
place that it has in the mapping.  A field with two names may stand there under both of them, and
then what stands behind the name of the change is written last.

## What is here

* `Spec.last?`, `Spec.get_merge`: the value that entries write last into a field.
* `Spec.beyond`: the entries behind a name; `last?_put`, what is written last when something else
  is put under the name.
* `Spec.Overtaken`: a change with something else for the same field behind it;
  `merge_withChanges_iff`, changes win unless there is one.
* `Session.updateBy`, `Session.updateInTurn`: both ways of updating an engine.
* `updateBy_eq_updateInTurn_iff`: exactly when they leave the same filters.
-/

set_option autoImplicit false

namespace SymbolSieve

namespace Spec

variable {f : Field} {k : String} {v : Value}

/-! ## The last value of a field -/

/-- The value of an entry that names a field. -/
def valueFor? (f : Field) (e : String × Value) : Option Value :=
  if Field.ofName? e.1 = some f then some e.2 else none

/-- The value that entries give a field last, under a name of either kind. -/
def last? (f : Field) (es : Entries) : Option Value := es.reverse.findSome? (valueFor? f)

theorem last?_append (es later : Entries) :
    last? f (es ++ later) = (last? f later).or (last? f es) := by
  rw [last?, List.reverse_append, List.findSome?_append, last?, last?]

theorem last?_cons (e : String × Value) (es : Entries) :
    last? f (e :: es) = (last? f es).or (valueFor? f e) := by
  rw [← List.singleton_append, last?_append]
  simp [last?]

/-- **What entries leave in a field** is what they give it last. -/
theorem get_merge (s : Spec) (es : Entries) : (s.merge es).get f = (last? f es).getD (s.get f) := by
  induction es using List.reverseRecOn with
  | nil => rfl
  | append_singleton es e ih =>
    have hmerge : s.merge (es ++ [e]) = (s.merge es).mergeEntry e := merge_append s es [e]
    rw [hmerge, last?_append, last?_cons, mergeEntry, valueFor?]
    cases hname : Field.ofName? e.1 with
    | none => simpa [last?] using ih
    | some g =>
      by_cases hg : g = f
      · subst hg
        simp [last?]
      · have hne : f ≠ g := fun heq => hg heq.symm
        simpa [last?, get_set_of_ne _ _ hne, hg] using ih

/-! ## What stands behind a name -/

/-- The entries behind the first one under a name. -/
def beyond (k : String) : Entries → Entries
  | [] => []
  | e :: es => if e.1 == k then es else beyond k es

/-- Where something is put under a name, the entries behind it come later. -/
theorem last?_put (hk : Field.ofName? k = some f) (es : Entries) :
    last? f (Assoc.put k v es) = (last? f (beyond k es)).or (some v) := by
  have hvalue : valueFor? f (k, v) = some v := if_pos hk
  induction es with
  | nil => simp [Assoc.put, beyond, last?, hvalue]
  | cons e es ih =>
    obtain ⟨k', x⟩ := e
    rw [Assoc.put, beyond]
    by_cases hkey : k' = k
    · rw [if_pos (by simpa using hkey), if_pos (by simpa using hkey), hkey, last?_cons, hvalue]
    · rw [if_neg (by simpa using hkey), if_neg (by simpa using hkey), last?_cons, ih]
      cases last? f (beyond k es) <;> rfl

/-- What is put under another field's name makes no difference to a field. -/
theorem last?_put_of_ne (hk : Field.ofName? k ≠ some f) (es : Entries) :
    last? f (Assoc.put k v es) = last? f es := by
  have hvalue : ∀ x, valueFor? f (k, x) = none := fun _ => if_neg hk
  induction es with
  | nil => simp [Assoc.put, last?, hvalue]
  | cons e es ih =>
    obtain ⟨k', x⟩ := e
    rw [Assoc.put]
    by_cases hkey : k' = k
    · rw [if_pos (by simpa using hkey), hkey, last?_cons, last?_cons, hvalue, hvalue]
    · rw [if_neg (by simpa using hkey), last?_cons, last?_cons, ih]

theorem last?_beyond_put_of_ne {k' : String} (hk' : Field.ofName? k' ≠ some f) (hne : k' ≠ k)
    (es : Entries) : last? f (beyond k (Assoc.put k' v es)) = last? f (beyond k es) := by
  induction es with
  | nil => simp [Assoc.put, beyond, hne]
  | cons e es ih =>
    obtain ⟨k'', x⟩ := e
    rw [Assoc.put]
    by_cases hkey' : k'' = k'
    · subst hkey'
      simp [beyond, hne]
    · rw [if_neg (by simpa using hkey'), beyond, beyond]
      dsimp only
      split
      next => exact last?_put_of_ne hk' es
      next => exact ih

/-! ## Changes by name -/

/-- Changes of which no two are for the same field. -/
def NameOnce (changes : Entries) : Prop :=
  changes.Pairwise fun e e' => ∀ f, Field.ofName? e.1 = some f → Field.ofName? e'.1 ≠ some f

variable {changes : Entries} {e : String × Value}

theorem withChanges_cons (fields : Entries) (e : String × Value) (changes : Entries) :
    withChanges fields (e :: changes) = withChanges (Assoc.put e.1 e.2 fields) changes := rfl

/-- Changes of other fields make no difference to a field. -/
theorem last?_withChanges_of_ne (h : ∀ e ∈ changes, Field.ofName? e.1 ≠ some f) (fields : Entries) :
    last? f (withChanges fields changes) = last? f fields := by
  induction changes generalizing fields with
  | nil => rfl
  | cons e changes ih =>
    obtain ⟨he, hrest⟩ := List.forall_mem_cons.1 h
    rw [withChanges_cons, ih hrest, last?_put_of_ne he]

/-- **The change of a field** comes last, but for the entries that stand behind its name. -/
theorem last?_withChanges (honce : NameOnce changes) (he : e ∈ changes)
    (hf : Field.ofName? e.1 = some f) (fields : Entries) :
    last? f (withChanges fields changes) = (last? f (beyond e.1 fields)).or (some e.2) := by
  induction changes generalizing fields with
  | nil => cases he
  | cons first changes ih =>
    obtain ⟨hfirst, hrest⟩ := List.pairwise_cons.1 honce
    rw [withChanges_cons]
    rcases List.mem_cons.1 he with rfl | he
    · rw [last?_withChanges_of_ne fun e' he' => hfirst e' he' f hf, last?_put hf]
    · have hother : Field.ofName? first.1 ≠ some f := fun heq => hfirst e he f heq hf
      have hne : first.1 ≠ e.1 := fun heq => hother (heq ▸ hf)
      rw [ih hrest he, last?_beyond_put_of_ne hother hne]

/-- Behind the name of a change, the mapping has something else for the same field. -/
def Overtaken (fields : Entries) (e : String × Value) : Prop :=
  ∃ f v, Field.ofName? e.1 = some f ∧ last? f (beyond e.1 fields) = some v ∧ v ≠ e.2

/-- **Changes win over a mapping** exactly if none of them is overtaken. -/
theorem merge_withChanges_iff (s : Spec) (fields : Entries) (honce : NameOnce changes) :
    s.merge (withChanges fields changes) = (s.merge fields).merge (withChanges [] changes) ↔
      ∀ e ∈ changes, ¬ Overtaken fields e := by
  -- In the field of a change, the one side has what comes last and the other one the change.
  have hchanged : ∀ e ∈ changes, ∀ f, Field.ofName? e.1 = some f →
      (s.merge (withChanges fields changes)).get f = (last? f (beyond e.1 fields)).getD e.2 ∧
        ((s.merge fields).merge (withChanges [] changes)).get f = e.2 := by
    intro e he f hf
    rw [get_merge, get_merge, last?_withChanges honce he hf, last?_withChanges honce he hf]
    cases last? f (beyond e.1 fields) <;> exact ⟨rfl, rfl⟩
  constructor
  · rintro hsame e he ⟨f, v, hf, hlast, hne⟩
    obtain ⟨hboth, hturn⟩ := hchanged e he f hf
    rw [← hsame, hboth, hlast] at hturn
    exact hne hturn
  · intro hnone
    refine ext_get fun f => ?_
    by_cases hnamed : ∃ e ∈ changes, Field.ofName? e.1 = some f
    · obtain ⟨e, he, hf⟩ := hnamed
      obtain ⟨hboth, hturn⟩ := hchanged e he f hf
      rw [hboth, hturn]
      cases hlast : last? f (beyond e.1 fields) with
      | none => rfl
      | some v => exact not_not.1 fun hne => hnone e he ⟨f, v, hf, hlast, hne⟩
    · have hother : ∀ e ∈ changes, Field.ofName? e.1 ≠ some f := by
        intro e he hf
        exact hnamed ⟨e, he, hf⟩
      rw [get_merge, get_merge, get_merge, last?_withChanges_of_ne hother,
        last?_withChanges_of_ne hother]
      rfl

end Spec

namespace Session

open Spec (NameOnce Overtaken merge_withChanges_iff)

/-! ## Updates of an engine -/

/-- Changes that are given by name: no name is reserved, and no two of them are for the same
field. -/
structure Keywords (changes : Entries) : Prop where
  unreserved : ∀ k ∈ reservedNames, Assoc.get? k changes = none
  once : NameOnce changes

theorem keywords_nil : Keywords [] := ⟨fun _ _ => rfl, .nil⟩

/-- Updates an engine with a value, and with changes that are meant to win over it. -/
def updateBy (name : String) (fields changes : Value) :
    StateM Session (Except ValueFault Unit) := do
  match Change.ofValues fields changes with
  | .error fault => return .error fault
  | .ok c => change (.text name) c

/-- Updates an engine with a mapping and then with changes, whether the first update goes well or
not. -/
def updateInTurn (name : String) (fields changes : Value) :
    StateM Session (Except ValueFault Unit) := do
  let _ ← updateBy name fields (.map [])
  updateBy name .null changes

variable {name : String} {fields changes : Entries} {s : Session}

theorem updatesOf_map (fields : Entries) : updatesOf (.map fields) = .ok fields := by
  cases fields <;> rfl

theorem updateBy_eq (fields : Value) {es : Entries} (hfields : updatesOf fields = .ok es)
    (hchanges : Keywords changes) (name : String) :
    updateBy name fields (.map changes) =
      change (.text name) (.update (withChanges es changes)) := by
  have hunreserved : (reservedNames.any fun k => (Assoc.get? k changes).isSome) = false := by
    rw [List.any_eq_false]
    intro k hk
    rw [hchanges.unreserved k hk]
    nofun
  have hgiven : changesOf (.map changes) = .ok changes := by
    rw [changesOf, hunreserved]
    rfl
  have hchange : Change.ofValues fields (.map changes) =
      .ok (.update (withChanges es changes)) := by
    rw [Change.ofValues, hgiven, hfields]
    rfl
  rw [updateBy, hchange]

theorem updateInTurn_apply (hchanges : Keywords changes) (name : String) (fields : Entries)
    (s : Session) : updateInTurn name (.map fields) (.map changes) s =
      change (.text name) (.update (withChanges [] changes))
        (change (.text name) (.update fields) s).2 := by
  have hfirst : updateBy name (.map fields) (.map []) = change (.text name) (.update fields) :=
    updateBy_eq _ (updatesOf_map fields) keywords_nil name
  have hsecond := updateBy_eq .null rfl hchanges name
  rw [updateInTurn, hfirst, hsecond]
  rfl

/-- What updates leave in turn, if no listener answers one of them with a change. -/
theorem specs_updateInTurn (hchanges : Keywords changes)
    (h : Undisturbed s (updateInTurn name (.map fields) (.map changes) s).2) :
    (updateInTurn name (.map fields) (.map changes) s).2.view.specs name =
      ((s.view.specs name).merge fields).merge (withChanges [] changes) := by
  rw [updateInTurn_apply hchanges] at h ⊢
  obtain ⟨hfirst, hsecond⟩ := h.between (pending_change ..) (pending_change ..)
  rw [specs_change hsecond, specs_change hfirst]
  rfl

/-- **A mapping with changes leaves the same filters** as the mapping and then the changes, exactly
if no change is overtaken.  Listeners that answer with changes of their own are left out. -/
theorem updateBy_eq_updateInTurn_iff (hchanges : Keywords changes)
    (hboth : Undisturbed s (updateBy name (.map fields) (.map changes) s).2)
    (hturn : Undisturbed s (updateInTurn name (.map fields) (.map changes) s).2) :
    (updateBy name (.map fields) (.map changes) s).2.view.specs name =
        (updateInTurn name (.map fields) (.map changes) s).2.view.specs name ↔
      ∀ e ∈ changes, ¬ Overtaken fields e := by
  rw [specs_updateInTurn hchanges hturn]
  rw [updateBy_eq _ (updatesOf_map fields) hchanges name] at hboth ⊢
  rw [specs_change hboth]
  exact merge_withChanges_iff _ fields hchanges.once

/-! ## Updates under both names of a field -/

/-- A mapping in which the name of a change stands behind the other name of its field. -/
theorem updateBy_eq_updateInTurn_iff_last :
    let fields := [("minRefs", Value.int 1), ("bogus", .null), ("min_refs", .int 2)]
    let changes := [("search", Value.text "x"), ("min_refs", .int 5)]
    Keywords changes ∧
      Undisturbed {} (updateBy "main" (.map fields) (.map changes) {}).2 ∧
      Undisturbed {} (updateInTurn "main" (.map fields) (.map changes) {}).2 ∧
      (updateBy "main" (.map fields) (.map changes) {}).2.view.specs "main" =
        (updateInTurn "main" (.map fields) (.map changes) {}).2.view.specs "main" := by
  intro fields changes
  have honce : NameOnce changes := by
    refine .cons (fun e he f hf => ?_) (.cons nofun .nil)
    cases List.mem_singleton.1 he
    cases hf
    nofun
  have hchanges : Keywords changes := ⟨by decide, honce⟩
  have hboth : Undisturbed {} (updateBy "main" (.map fields) (.map changes) {}).2 := rfl
  have hturn : Undisturbed {} (updateInTurn "main" (.map fields) (.map changes) {}).2 := rfl
  refine ⟨hchanges, hboth, hturn,
    (updateBy_eq_updateInTurn_iff hchanges hboth hturn).2 fun e he => ?_⟩
  have hbeyond : Spec.beyond e.1 fields = [] := by
    rcases List.mem_pair.1 he with rfl | rfl <;> rfl
  rintro ⟨f, v, -, hlast, -⟩
  rw [hbeyond] at hlast
  cases hlast

/-- **A change is lost** where the other name of its field stands behind its own in the mapping. -/
theorem not_updateBy_eq_updateInTurn :
    let fields := [("min_refs", Value.int 1), ("minRefs", .int 2)]
    let changes := [("min_refs", Value.int 5)]
    (Assoc.keys fields).Nodup ∧ Keywords changes ∧
      ((updateBy "main" (.map fields) (.map changes) {}).2.view.specs "main").minRefs =
        .int 2 ∧
      ((updateInTurn "main" (.map fields) (.map changes) {}).2.view.specs "main").minRefs =
        .int 5 :=
  ⟨by decide, ⟨by decide, .cons nofun .nil⟩, rfl, rfl⟩

end Session

end SymbolSieve
