import Mathlib.Data.String.Basic
import Mathlib.Data.Sum.Order
import SymbolSieve.Proofs.Number.Order
import SymbolSieve.Proofs.Outcome
import SymbolSieve.Sorting

/-!
# The order of sort keys

All keys of a column are numbers, or all are texts.  Numbers come in the order of their values and
texts in that of their code points, so the keys of a column are in a linear order, but for
not-a-number, which comes neither before nor after any other key.

## What is here

* `Rank`, `Key.rank?`: what keys are compared by.
* `Key.before_iff`: a key comes before another one of its kind if its rank is less.
* `rankOf?`: the rank of a record in a column.
* `inLine`, `inDirection`: what decides on the places of two records, and which way they are listed.
* `exists_sort_iff`, `sort_eq`: sorting has a result if every record has a key, and which one.
-/

set_option autoImplicit false

namespace SymbolSieve.Sorting

/-- What keys are compared by: the value of a number, or a text. -/
abbrev Rank := WithBot (WithTop ℚ) ⊕ₗ String

/-- The rank of a key.  Not-a-number has none. -/
def Key.rank? : Key → Option Rank
  | .number x => x.value?.map Sum.inlₗ
  | .text s => some (Sum.inrₗ s)

/-- Whether a key is a number. -/
def Key.isNumber : Key → Bool
  | .number _ => true
  | .text _ => false

theorem Key.rank?_eq_none_iff {k : Key} : k.rank? = none ↔ k = .number .nan := by
  cases k <;> simp [rank?, Binary64.value?_eq_none_iff]

/-- **A key comes before another one of its kind if its rank is less.** -/
theorem Key.before_iff {k l : Key} {a b : Rank} (hkind : k.isNumber = l.isNumber)
    (hk : k.rank? = some a) (hl : l.rank? = some b) : k.before l = true ↔ a < b := by
  cases k with
  | number x =>
    cases l with
    | number y =>
      obtain ⟨v, hv, rfl⟩ := Option.map_eq_some_iff.1 hk
      obtain ⟨w, hw, rfl⟩ := Option.map_eq_some_iff.1 hl
      rw [before, beq_iff_eq, Binary64.compare?_eq_lt_iff hv hw, Sum.Lex.inl_lt_inl_iff]
    | text t => cases hkind
  | text s =>
    cases l with
    | number y => cases hkind
    | text t =>
      cases hk
      cases hl
      rw [before, decide_eq_true_eq, Sum.Lex.inr_lt_inr_iff]

/-! ## Keys of a column -/

/-- The keys of a column are all of one kind. -/
theorem isNumber_of_key {column record : Value} {k : Key} (h : key column record = .ok k) :
    k.isNumber = isNumeric column := by
  obtain ⟨v, -, h⟩ := bind_eq_ok_iff.1 h
  split at h
  next hnumeric =>
    obtain ⟨x, -, hk⟩ := bind_eq_ok_iff.1 h
    cases hk
    exact hnumeric.symm
  next hnumeric =>
    rw [Bool.not_eq_true] at hnumeric
    rw [hnumeric]
    split at h
    · cases h
      rfl
    · obtain ⟨t, -, hk⟩ := bind_eq_ok_iff.1 h
      cases hk
      rfl

/-- The key of a record in a column. -/
def keyOf (column record : Value) : Key :=
  match key column record with
  | .ok k => k
  | .error _ => .text ""

theorem key_eq {column record : Value} (h : ∃ k, key column record = .ok k) :
    key column record = .ok (keyOf column record) := by
  obtain ⟨k, hk⟩ := h
  rw [keyOf, hk]

/-- The rank of a record in a column, if it has a key there and the key is not not-a-number. -/
def rankOf? (column record : Value) : Option Rank :=
  match key column record with
  | .ok k => k.rank?
  | .error _ => none

theorem rankOf?_eq {column record : Value} (h : ∃ k, key column record = .ok k) :
    rankOf? column record = (keyOf column record).rank? := by
  rw [rankOf?, key_eq h]

/-- A record with a key has a rank, unless the key is not-a-number. -/
theorem exists_rankOf?_iff {column record : Value} (h : ∃ k, key column record = .ok k) :
    (∃ a, rankOf? column record = some a) ↔ key column record ≠ .ok (.number .nan) := by
  rw [← Option.ne_none_iff_exists', rankOf?_eq h, Ne, Key.rank?_eq_none_iff, key_eq h, Ne,
    Except.ok.injEq]

theorem exists_key_of_rankOf? {column record : Value} {a : Rank}
    (h : rankOf? column record = some a) : ∃ k, key column record = .ok k := by
  cases hk : key column record with
  | ok k => exact ⟨k, rfl⟩
  | error e => simp [rankOf?, hk] at h

/-! ## Records by their keys -/

/-- Whether a record may stand before another one, as its key does not come after the other key. -/
def inLine (column r r' : Value) : Bool := !(keyOf column r').before (keyOf column r)

theorem inLine_iff {column r r' : Value} {a b : Rank} (hr : rankOf? column r = some a)
    (hr' : rankOf? column r' = some b) : inLine column r r' = true ↔ a ≤ b := by
  have hk := exists_key_of_rankOf? hr
  have hk' := exists_key_of_rankOf? hr'
  have hkind : (keyOf column r').isNumber = (keyOf column r).isNumber :=
    (isNumber_of_key (key_eq hk')).trans (isNumber_of_key (key_eq hk)).symm
  rw [rankOf?_eq hk] at hr
  rw [rankOf?_eq hk'] at hr'
  rw [inLine, Bool.not_eq_true', ← Bool.not_eq_true, Key.before_iff hkind hr' hr, not_lt]

/-- A list, read backwards for descending order. -/
def inDirection (direction : Value) (l : List Value) : List Value :=
  if isDescending direction then l.reverse else l

theorem inDirection_perm (direction : Value) (l : List Value) :
    (inDirection direction l).Perm l := by
  rw [inDirection]
  split
  · exact List.reverse_perm l
  · exact .refl l

theorem filter_inDirection (p : Value → Bool) (direction : Value) (l : List Value) :
    (inDirection direction l).filter p = inDirection direction (l.filter p) := by
  rw [inDirection, inDirection]
  split
  · exact List.filter_reverse
  · rfl

theorem inDirection_of_ne {direction : Value} (h : direction ≠ .text "desc") (l : List Value) :
    inDirection direction l = l := by
  have hascending : isDescending direction = false := by
    rwa [← Bool.not_eq_true, isDescending, Value.equal_text_right_iff]
  rw [inDirection, hascending]
  rfl

variable {column : Value} {records : List Value}

/-- What sorting gives if every record has a key. -/
theorem sort_eq (h : ∀ r ∈ records, ∃ k, key column r = .ok k) (direction : Value) :
    sort column direction (.list records) =
      .ok (inDirection direction (records.mergeSort (inLine column))) := by
  have hkeyed : keyed id column records = .ok (records.map fun r => (keyOf column r, r)) := by
    refine (mapM_eq_ok_iff_of_forall (P := fun _ => True) fun r hr y => ?_).2 ⟨by simp, rfl⟩
    rw [id, key_eq (h r hr), Except.map, Except.ok.injEq, true_and, eq_comm]
  have hordered : (ordered (records.map fun r => (keyOf column r, r))).map Prod.snd =
      records.mergeSort (inLine column) := by
    rw [ordered, List.map_mergeSort (s := inLine column), List.map_map]
    · exact congrArg (List.mergeSort · _) (List.map_id records)
    · simp [inLine]
  simp only [sort, Value.items_list, sortBy, hkeyed, hordered, inDirection, bind, Except.bind, pure,
    Except.pure]

/-- **Sorting has a result if every record has a key.** -/
theorem exists_sort_iff (direction : Value) :
    (∃ sorted, sort column direction (.list records) = .ok sorted) ↔
      ∀ r ∈ records, ∃ k, key column r = .ok k := by
  have hkeyed : (∃ kxs, keyed id column records = .ok kxs) ↔
      ∀ r ∈ records, ∃ k, key column r = .ok k := by
    simp only [keyed, exists_mapM_iff, exists_map_iff, id]
  rw [← hkeyed]
  exact exists_bind_pure_iff

end SymbolSieve.Sorting
