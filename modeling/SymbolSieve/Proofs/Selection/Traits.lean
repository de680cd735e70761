import SymbolSieve.Selection

/-!
# What filters see of a record

The fields of a record may have several names and may be missing, but when they are of their own
kinds, all that the filters can tell about the record is nine plain values.  Every such choice of
values is that of some record.

## What is here

* `Standing`, `Traits`: the plain values; the standing is what the state, the entry field and the
  bounds on references look at.
* `WellTyped`: the records whose fields are of their own kinds, or missing.
* `HasTraits`: a record looks like some plain values; `exists_hasTraits` finds them.
* `Traits.record`: a record for any plain values.
-/

set_option autoImplicit false

namespace SymbolSieve

/-- What is known about the use of a symbol. -/
structure Standing where
  /-- The number of references, if it is reported. -/
  refs : Option Int
  dead : Bool
  cycle : Bool
  entry : Bool

/-- The number of references, none if it is not reported. -/
def Standing.count (s : Standing) : Int := s.refs.getD 0

/-- All that filters see of a record. -/
structure Traits where
  name : String
  path : String
  kind : String
  standing : Standing
  callers : Int
  callees : Int

namespace Record

/-! ## Fields of their own kinds -/

/-- What a record has under each of some names, if anything, has a property. -/
def Fits (P : Value → Prop) (record : Value) (names : List String) : Prop :=
  ∀ name ∈ names, ∀ v, record.fieldAt? name = some v → P v

/-- A record whose fields are texts, integers and truth values, each as it should be, or missing. -/
structure WellTyped (record : Value) : Prop where
  name : Fits (fun v => ∃ s, v = .text s) record ["name"]
  path : Fits (fun v => ∃ s, v = .text s) record ["path", "file"]
  kind : Fits (fun v => ∃ s, v = .text s) record ["kind", "type"]
  refs : Fits (fun v => ∃ n, v = .int n) record ["refs", "references"]
  callers : Fits (fun v => ∃ n, v = .int n) record ["callers", "caller_count"]
  callees : Fits (fun v => ∃ n, v = .int n) record ["callees", "callee_count"]
  flags : Fits (fun v => ∃ b, v = .bool b) record
    ["dead", "in_cycle", "inCycle", "entry", "is_entry"]

/-- A record looks like some plain values. -/
structure HasTraits (record : Value) (t : Traits) : Prop where
  name : Record.name record = .text t.name
  path : Record.path record = .text t.path
  kind : Record.kind record = .ok t.kind
  refs : Record.refs record = (t.standing.refs.map .int).getD .null
  dead : isDead record = t.standing.dead
  cycle : isInCycle record = t.standing.cycle
  entry : isEntry record = t.standing.entry
  callers : Record.callers record = .int t.callers
  callees : Record.callees record = .int t.callees

variable {P : Value → Prop} {record : Value} {names : List String}

theorem field_eq_null_or_of_fits (h : Fits P record names) :
    field record names = .null ∨ P (field record names) := by
  rw [field]
  cases hfound : record.field? names with
  | none => exact .inl rfl
  | some v =>
    obtain ⟨name, hname, hv⟩ := List.exists_of_findSome?_eq_some hfound
    exact .inr (h name hname v hv)

theorem orElse_text (s : String) : (Value.text s).orElse (.text "") = .text s := by
  by_cases h : s = ""
  · subst h
    rfl
  · exact Value.orElse_of_truthy _ (by simp [Value.truthy, h])

theorem orElse_int (n : Int) : (Value.int n).orElse (.int 0) = .int n := by
  by_cases h : n = 0
  · subst h
    rfl
  · exact Value.orElse_of_truthy _ (by simp [Value.truthy, h])

theorem exists_text_of_fits (h : Fits (fun v => ∃ s, v = .text s) record names) :
    ∃ s, (field record names).orElse (.text "") = .text s := by
  rcases field_eq_null_or_of_fits h with hnull | ⟨s, hs⟩
  · exact ⟨"", by rw [hnull]; rfl⟩
  · exact ⟨s, by rw [hs, orElse_text]⟩

theorem exists_int_of_fits (h : Fits (fun v => ∃ n, v = .int n) record names) :
    ∃ n, (field record names).orElse (.int 0) = .int n := by
  rcases field_eq_null_or_of_fits h with hnull | ⟨n, hn⟩
  · exact ⟨0, by rw [hnull]; rfl⟩
  · exact ⟨n, by rw [hn, orElse_int]⟩

/-- **A well-typed record looks like some plain values.** -/
theorem exists_hasTraits (h : WellTyped record) : ∃ t, HasTraits record t := by
  obtain ⟨name, hname⟩ := exists_text_of_fits h.name
  obtain ⟨path, hpath⟩ := exists_text_of_fits h.path
  obtain ⟨kind, hkind⟩ := exists_text_of_fits h.kind
  obtain ⟨callers, hcallers⟩ := exists_int_of_fits h.callers
  obtain ⟨callees, hcallees⟩ := exists_int_of_fits h.callees
  obtain ⟨refs, hrefs⟩ : ∃ refs : Option Int, Record.refs record = (refs.map .int).getD .null := by
    rcases field_eq_null_or_of_fits h.refs with hnull | ⟨n, hn⟩
    · exact ⟨none, hnull⟩
    · exact ⟨some n, hn⟩
  refine ⟨⟨name, path, kind, ⟨refs, isDead record, isInCycle record, isEntry record⟩, callers,
    callees⟩, hname, hpath, ?_, hrefs, rfl, rfl, rfl, hcallers, hcallees⟩
  rw [Record.kind, hkind]
  rfl

end Record

/-! ## A record for any plain values -/

namespace Traits

open Record

/-- A record that looks like some plain values. -/
def record (t : Traits) : Value :=
  .map [("name", .text t.name), ("path", .text t.path), ("kind", .text t.kind),
    ("refs", (t.standing.refs.map .int).getD .null), ("dead", .bool t.standing.dead),
    ("in_cycle", .bool t.standing.cycle), ("entry", .bool t.standing.entry),
    ("callers", .int t.callers), ("callees", .int t.callees)]

theorem hasTraits_record (t : Traits) : HasTraits t.record t where
  name := orElse_text t.name
  path := orElse_text t.path
  kind := congrArg Value.shown (orElse_text t.kind)
  refs := by rcases t with ⟨_, _, _, ⟨_ | n, _, _, _⟩, _, _⟩ <;> rfl
  dead := rfl
  cycle := Bool.or_false _
  entry := Bool.or_false _
  callers := orElse_int t.callers
  callees := orElse_int t.callees

theorem wellTyped_record (t : Traits) : WellTyped t.record := by
  obtain ⟨name, path, kind, ⟨refs, dead, cycle, entry⟩, callers, callees⟩ := t
  cases refs <;> constructor <;>
    simp [Fits, Value.fieldAt?, Option.filter_eq_some_iff, record, Value.part?, Assoc.get?,
      Value.isNull]

end Traits

end SymbolSieve
