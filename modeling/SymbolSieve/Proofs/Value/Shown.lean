import Mathlib.Tactic.SplitIfs
import SymbolSieve.Proofs.Number.Decimal

/-!
# Values that have a text

Every value can be shown as text, except that an integer with more than `digitLimit` digits cannot,
nor can a value that holds one, however deep inside.

## What is here

* `Value.HoldsLong`: values that hold an integer that is too long.
* `exists_quoted_iff`, `exists_shown_iff`: all others have a text.
-/

set_option autoImplicit false

namespace SymbolSieve

namespace Value

/-- A value holds an integer with too many digits.  An attribute without a name is not shown, so it
does not count. -/
inductive HoldsLong : Value → Prop where
  | int {n : Int} (h : 10 ^ digitLimit ≤ n.natAbs) : HoldsLong (.int n)
  | item {items : List Value} {v : Value} (hmem : v ∈ items) (h : HoldsLong v) :
    HoldsLong (.list items)
  | entry {entries : List (String × Value)} {e : String × Value} (hmem : e ∈ entries)
    (h : HoldsLong e.2) : HoldsLong (.map entries)
  | named {attributes : List (String × Value)} {a : String × Value} (hmem : a ∈ attributes)
    (hname : a.1 ≠ "") (h : HoldsLong a.2) : HoldsLong (.object attributes)

theorem holdsLong_int_iff {n : Int} : HoldsLong (.int n) ↔ 10 ^ digitLimit ≤ n.natAbs := by
  refine ⟨fun h => ?_, .int⟩
  cases h with
  | int h => exact h

theorem holdsLong_list_iff {items : List Value} :
    HoldsLong (.list items) ↔ ∃ v ∈ items, HoldsLong v := by
  refine ⟨fun h => ?_, fun ⟨v, hmem, h⟩ => .item hmem h⟩
  cases h with
  | item hmem h => exact ⟨_, hmem, h⟩

theorem holdsLong_map_iff {entries : List (String × Value)} :
    HoldsLong (.map entries) ↔ ∃ e ∈ entries, HoldsLong e.2 := by
  refine ⟨fun h => ?_, fun ⟨e, hmem, h⟩ => .entry hmem h⟩
  cases h with
  | entry hmem h => exact ⟨_, hmem, h⟩

theorem holdsLong_object_iff {attributes : List (String × Value)} :
    HoldsLong (.object attributes) ↔ ∃ a ∈ attributes, a.1 ≠ "" ∧ HoldsLong a.2 := by
  refine ⟨fun h => ?_, fun ⟨a, hmem, hname, h⟩ => .named hmem hname h⟩
  cases h with
  | named hmem hname h => exact ⟨_, hmem, hname, h⟩

mutual

theorem exists_quoted_iff (v : Value) : (∃ t, v.quoted = .ok t) ↔ ¬ HoldsLong v := by
  cases v with
  | int n =>
    rw [quoted, intShown]
    rw [holdsLong_int_iff, Nat.not_le, ← writableInt_iff]
    split_ifs with h <;> simp [h]
  | list items =>
    rw [quoted, exists_bind_pure_iff, exists_quotedItems_iff items, holdsLong_list_iff]
    simp
  | map entries =>
    rw [quoted, exists_bind_pure_iff, exists_quotedEntries_iff entries, holdsLong_map_iff]
    simp
  | object attributes =>
    rw [quoted, exists_bind_pure_iff, exists_quotedAttributes_iff attributes, holdsLong_object_iff]
    simp
  | null | bool b | float x | text s =>
    refine iff_of_true ⟨_, rfl⟩ ?_
    rintro ⟨⟩
termination_by structural v

theorem exists_quotedItems_iff (items : List Value) :
    (∃ ts, quotedItems items = .ok ts) ↔ ∀ v ∈ items, ¬ HoldsLong v := by
  match items with
  | [] => simp [quotedItems]
  | v :: rest =>
    rw [quotedItems, exists_bind_bind_pure_iff, exists_quoted_iff v, exists_quotedItems_iff rest,
      List.forall_mem_cons]
termination_by structural items

theorem exists_quotedEntries_iff (entries : List (String × Value)) :
    (∃ ts, quotedEntries entries = .ok ts) ↔ ∀ e ∈ entries, ¬ HoldsLong e.2 := by
  match entries with
  | [] => simp [quotedEntries]
  | (k, v) :: rest =>
    rw [quotedEntries, exists_bind_bind_pure_iff, exists_quoted_iff v,
      exists_quotedEntries_iff rest, List.forall_mem_cons]
termination_by structural entries

theorem exists_quotedAttributes_iff (attributes : List (String × Value)) :
    (∃ ts, quotedAttributes attributes = .ok ts) ↔
      ∀ a ∈ attributes, a.1 ≠ "" → ¬ HoldsLong a.2 := by
  match attributes with
  | [] => simp [quotedAttributes]
  | (k, v) :: rest =>
    rw [List.forall_mem_cons, ← exists_quotedAttributes_iff rest, ← exists_quoted_iff v,
      quotedAttributes]
    by_cases hk : k = ""
    · simp [hk]
    · rw [if_neg (by simpa using hk), exists_bind_bind_pure_iff]
      simp [hk]
termination_by structural attributes

end

/-- **A value has a text** if it holds no integer that is too long. -/
theorem exists_shown_iff (v : Value) : (∃ t, v.shown = .ok t) ↔ ¬ HoldsLong v := by
  rw [← exists_quoted_iff]
  cases v with
  | text s => exact iff_of_true ⟨_, rfl⟩ ⟨_, rfl⟩
  | _ => rfl

end Value

end SymbolSieve
