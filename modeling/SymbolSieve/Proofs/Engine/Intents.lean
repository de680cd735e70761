import SymbolSieve.Proofs.Engine.Changes
import SymbolSieve.Proofs.Engine.Mutations

/-!
# What mutations come down to

Whatever a view does to the filters of an engine comes down to one change of them, or to nothing.
Which change that is depends on the filters as they are, and before it is made the mutation does no
more than to write a line to the log.

## What is here

* `Mutation.intent`: the change that a mutation comes down to.
* `Mutation.run_eq`: a mutation is the change that it comes down to.
* `Mutation.outcome`: the filters that a mutation leaves.
* `Mutation.Gives`: the mutations that give fields only values with a property.
-/

set_option autoImplicit false

namespace SymbolSieve.Session.Mutation

/-- What a mutation comes down to where an engine has certain filters: a change, or nothing. -/
def intent : Mutation → Spec → Except ValueFault (Option Change)
  | change _ c, _ => .ok (some c)
  | toggle _ fields, s => (s.quickToggle fields).map fun es => some (.update es)
  | bucket _ choice, _ =>
    if !choice.isKey then .error .wrongKind
    else match bucketOf? choice with
      | some b => .ok (some (.update (Spec.bucketEntries b)))
      | none => choice.quoted.map fun _ => none
  | applyPreset _ none, _ => .error .noAttribute
  | applyPreset _ (some p), _ => .ok (some (.query (.text p.query)))

/-- The line that a mutation writes to the log before it changes anything. -/
def remark : Mutation → Option String
  | bucket _ choice =>
    if choice.isKey && (bucketOf? choice).isNone then
      choice.quoted.toOption.map ("Unknown refs range " ++ ·)
    else none
  | applyPreset _ (some p) => some ("Applying preset " ++ p.id ++ " (" ++ Text.quoted p.name ++ ")")
  | _ => none

/-- A session in which a mutation has written its line to the log. -/
def remarked (m : Mutation) (s : Session) : Session := match m.remark with
  | some message => (report .debug message s).2
  | none => s

/-- A line in the log is all that is remarked. -/
theorem remarked_eq (m : Mutation) (s : Session) :
    ∃ log, m.remarked s = { s with desk := { s.desk with log } } := by
  rw [remarked]
  cases m.remark with
  | some message => exact ⟨_, rfl⟩
  | none => exact ⟨s.desk.log, rfl⟩

/-- **A mutation is the change** that it comes down to. -/
theorem run_eq (m : Mutation) (s : Session) :
    m.run s = match m.intent (s.engineOf m.engine).spec with
      | .error fault => (.error fault, m.remarked s)
      | .ok none => (.ok (), m.remarked s)
      | .ok (some c) => Session.change m.engine c (m.remarked s) := by
  cases m with
  | change e c => rfl
  | toggle e fields =>
    show toggleQuick e fields s = _
    rw [toggleQuick_apply, intent, engine]
    cases (s.engineOf e).spec.quickToggle fields <;> rfl
  | bucket e choice =>
    show selectBucket e choice s = _
    rw [selectBucket_eq, remarked, intent, remark]
    cases choice.isKey with
    | false => rfl
    | true =>
      cases bucketOf? choice with
      | some b => rfl
      | none =>
        simp only [applyBucket]
        cases choice.quoted <;> rfl
  | applyPreset e p => cases p <;> rfl

/-- A mutation that is no choice of an unknown bucket. -/
def IsKnown : Mutation → Prop
  | bucket _ choice => (bucketOf? choice).isSome = true
  | _ => True

/-- A mutation comes down to a change, unless it fails or chooses an unknown bucket. -/
theorem IsKnown.intent_ne_none {m : Mutation} (hm : m.IsKnown) (s : Spec) :
    m.intent s ≠ .ok none := by
  intro h
  cases m with
  | change e c => cases h
  | toggle e fields =>
    obtain ⟨es, -, heq⟩ := map_eq_ok_iff.1 h
    cases heq
  | bucket e choice =>
    obtain ⟨b, hb⟩ := Option.isSome_iff_exists.1 hm
    rw [intent, hb] at h
    split at h <;> cases h
  | applyPreset e p => cases p <;> cases h

/-- The filters that a mutation leaves, unless it fails. -/
def outcome (m : Mutation) (s : Spec) : Except ValueFault Spec := do
  match ← m.intent s with
  | none => return s
  | some c => c.apply s

/-- A mutation that gives fields only values with a property. -/
def Gives (P : Value → Prop) : Mutation → Prop
  | change _ c => c.Gives P
  | toggle _ fields => Spec.Gives (fun _ => P) fields
  | _ => True

theorem Gives.intent {P : Value → Prop} (hP : ∀ f v, Query.Admits f v → P v) {m : Mutation}
    (hm : m.Gives P) {s : Spec} {c : Change} (h : m.intent s = .ok (some c)) : c.Gives P := by
  cases m with
  | change e c' =>
    obtain rfl := Option.some.inj (Except.ok.inj h)
    exact hm
  | toggle e fields =>
    obtain ⟨es, hes, heq⟩ := map_eq_ok_iff.1 h
    obtain rfl := Option.some.inj heq
    exact gives_of_quickToggle hP hm hes
  | bucket e choice =>
    rw [Mutation.intent] at h
    split at h
    · cases h
    · split at h
      next b hb =>
        obtain rfl := Option.some.inj (Except.ok.inj h)
        cases choice with
        | text t => exact (gives_bucketEntries hb).mono hP
        | _ => cases hb
      next =>
        obtain ⟨t, -, heq⟩ := map_eq_ok_iff.1 h
        cases heq
  | applyPreset e p =>
    cases p with
    | none => cases h
    | some p =>
      obtain rfl := Option.some.inj (Except.ok.inj h)
      trivial

end SymbolSieve.Session.Mutation
