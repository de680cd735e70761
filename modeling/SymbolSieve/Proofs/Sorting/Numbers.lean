import SymbolSieve.Proofs.Number.Range
import SymbolSieve.Proofs.Sorting.Keys

/-!
# Columns of numbers

A column of numbers is meant to be sorted whatever its records hold: a value that is no number
counts as zero.  But an integer can be a number and still not be one of the format, and then it is
not zero that counts.  Sorting fails, however many other records there are.

## What is here

* `ReadsAs`: the number that a value is read as.
* `exists_numberOf_iff`: the values that have a sort key in a column of numbers.
* `SortsNumbers`: sorting by a column of numbers has a result, and goes by the numbers.
* `sortsNumbers_iff`: it does exactly if no record has an integer that is beyond the format.
-/

set_option autoImplicit false

namespace SymbolSieve.Sorting

open Record

/-- The number that a value is read as.  Truth values are one and zero, an integer is rounded to the
nearest number of the format, and a text has to spell a number. -/
inductive ReadsAs : Value → Binary64 → Prop where
  | bool (b : Bool) : ReadsAs (.bool b) (.finite false b.toNat 0)
  | int {n : Int} {x : Binary64} (h : Binary64.ofInt? n = some x) : ReadsAs (.int n) x
  | float (x : Binary64) : ReadsAs (.float x) x
  | text {s : String} {x : Binary64} (h : Number.readFloat s = .ok x) : ReadsAs (.text s) x

/-! ## Values as numbers -/

variable {v : Value} {x : Binary64}

theorem numberOf_of_not_truthy (h : v.truthy = false) :
    numberOf v = .ok (Binary64.zero false) := by
  unfold numberOf
  rw [h]
  rfl

/-- An integer is rounded, and is an error where that is not possible. -/
theorem numberOf_int (n : Int) : numberOf (.int n) =
    match Binary64.ofInt? n with
    | some x => .ok x
    | none => .error .outOfRange := by
  by_cases hn : n = 0
  · subst hn
    rfl
  · cases hx : Binary64.ofInt? n <;> simp [numberOf, Value.truthy, hn, hx]

theorem value?_of_isZero (h : x.isZero = true) : x.value? = (Binary64.zero false).value? := by
  cases x with
  | nan => cases h
  | infinite b => cases h
  | finite b m e =>
    obtain rfl : m = 0 := by simpa [Binary64.isZero] using h
    simp [Binary64.value?, Binary64.zero, Binary64.finiteValue]

/-- What does not count as present is read as zero, if it is read as a number. -/
theorem ReadsAs.value?_of_not_truthy (h : ReadsAs v x) (hv : v.truthy = false) :
    x.value? = (Binary64.zero false).value? := by
  cases h with
  | bool b =>
    obtain rfl : b = false := hv
    exact value?_of_isZero rfl
  | @int n x hx =>
    obtain rfl : n = 0 := by simpa [Value.truthy] using hv
    obtain rfl : Binary64.zero false = x := Option.some.inj hx
    rfl
  | float x => exact value?_of_isZero (by simpa [Value.truthy] using hv)
  | @text s x hx =>
    obtain rfl : s = "" := by simpa [Value.truthy] using hv
    cases hx

/-- A value that can be read as a number is sorted by that number. -/
theorem ReadsAs.numberOf_eq (h : ReadsAs v x) : ∃ y, numberOf v = .ok y ∧ y.value? = x.value? := by
  cases htruthy : v.truthy with
  | false =>
    exact ⟨_, numberOf_of_not_truthy htruthy, (h.value?_of_not_truthy htruthy).symm⟩
  | true =>
    cases h with
    | bool b =>
      obtain rfl : b = true := htruthy
      exact ⟨_, rfl, by norm_num [Binary64.value?, Binary64.finiteValue]⟩
    | int hx => exact ⟨x, by simp [numberOf, htruthy, hx], rfl⟩
    | float => exact ⟨x, by simp [numberOf, htruthy], rfl⟩
    | text hx => exact ⟨x, by simp [numberOf, htruthy, hx], rfl⟩

/-- A value that cannot be read as a number is sorted as zero, unless it is an integer. -/
theorem numberOf_of_not_readsAs (h : ∀ x, ¬ ReadsAs v x) :
    numberOf v = .ok (Binary64.zero false) ∨
      ∃ n, v = .int n ∧ Binary64.ofInt? n = none ∧ numberOf v = .error .outOfRange := by
  cases v with
  | bool b => exact absurd (.bool b) (h _)
  | float x => exact absurd (.float x) (h x)
  | int n =>
    rw [numberOf_int]
    cases hx : Binary64.ofInt? n with
    | some x => exact absurd (.int hx) (h x)
    | none => exact .inr ⟨n, rfl, hx, rfl⟩
  | text s =>
    refine .inl ?_
    cases hx : Number.readFloat s with
    | ok x => exact absurd (.text hx) (h x)
    | error e => simp [numberOf, hx]
  | _ => exact .inl (by simp [numberOf])

/-- A value has a sort key in a column of numbers unless it is an integer beyond the format. -/
theorem exists_numberOf_iff :
    (∃ x, numberOf v = .ok x) ↔ ∀ n : Int, v = .int n → n.natAbs < Binary64.overflowBound := by
  have hinRange : ∀ n : Int, n.natAbs < Binary64.overflowBound ↔ Binary64.ofInt? n ≠ none :=
    fun n => by rw [Ne, Binary64.ofInt?_eq_none_iff, not_le]
  simp only [hinRange]
  constructor
  · rintro ⟨x, hx⟩ n rfl hnone
    rw [numberOf_int, hnone] at hx
    cases hx
  · intro h
    by_cases hreads : ∃ x, ReadsAs v x
    · obtain ⟨x, hx⟩ := hreads
      obtain ⟨y, hy, -⟩ := hx.numberOf_eq
      exact ⟨y, hy⟩
    · rcases numberOf_of_not_readsAs (not_exists.1 hreads) with hzero | ⟨n, hv, hnone, -⟩
      · exact ⟨_, hzero⟩
      · exact absurd hnone (h n hv)

/-! ## Records by a column of numbers -/

variable {column : String} {direction : Value} {records : List Value}

/-- Sorting by a column of numbers has a result, and goes by the numbers in it. -/
structure SortsNumbers (column : String) (direction : Value) (records : List Value) : Prop where
  /-- Sorting has a result. -/
  returns : ∃ sorted, sort (.text column) direction (.list records) = .ok sorted
  /-- What can be read as a number counts as that number. -/
  numbers : ∀ r ∈ records, ∀ x, ReadsAs (field r [column]) x →
    ∃ y, key (.text column) r = .ok (.number y) ∧ y.value? = x.value?
  /-- What cannot be read as a number counts as zero. -/
  others : ∀ r ∈ records, (∀ x, ¬ ReadsAs (field r [column]) x) →
    key (.text column) r = .ok (.number (Binary64.zero false))

theorem key_number (h : column ∈ numberColumns) (r : Value) :
    key (.text column) r = (numberOf (field r [column])).map .number := by
  have hnumeric : isNumeric (.text column) = true := by
    rw [isNumeric, List.any_eq_true]
    exact ⟨column, h, by simp⟩
  simp only [key, fieldUnder_text, hnumeric, if_true, bind, Except.bind]
  cases numberOf (field r [column]) <;> rfl

/-- **Sorting by a column of numbers has a result**, and goes by the numbers in it, exactly if no
record has an integer beyond the format there. -/
theorem sortsNumbers_iff (h : column ∈ numberColumns) (direction : Value) (records : List Value) :
    SortsNumbers column direction records ↔ ∀ r ∈ records, ∀ n : Int,
      field r [column] = .int n → n.natAbs < Binary64.overflowBound := by
  have hreturns : (∃ sorted, sort (.text column) direction (.list records) = .ok sorted) ↔
      ∀ r ∈ records, ∀ n : Int, field r [column] = .int n →
        n.natAbs < Binary64.overflowBound := by
    rw [exists_sort_iff]
    refine forall₂_congr fun r _ => ?_
    rw [key_number h, exists_map_iff, exists_numberOf_iff]
  rw [← hreturns]
  refine ⟨SortsNumbers.returns, fun hsorted => ⟨hsorted, fun r _ x hx => ?_, fun r hr hx => ?_⟩⟩
  · obtain ⟨y, hy, hvalue⟩ := hx.numberOf_eq
    exact ⟨y, by rw [key_number h, hy]; rfl, hvalue⟩
  · obtain ⟨x, hnumber⟩ := exists_numberOf_iff.2 (hreturns.1 hsorted r hr)
    rcases numberOf_of_not_readsAs hx with hzero | ⟨n, -, -, herror⟩
    · rw [key_number h, hzero]
      rfl
    · rw [herror] at hnumber
      cases hnumber

/-- Records with a text that spells a number, with texts and a list that do not, with truth values
and with an integer that is only just within the format. -/
def assorted : List Value :=
  [.map [("line", .text "1_000.5e0")], .map [("line", .text "many")],
    .map [("line", .list [.int 7])], .map [("line", .bool true)],
    .map [("line", .int (Binary64.overflowBound - 1 : Nat))], .map []]

theorem sortsNumbers_iff_assorted :
    "line" ∈ numberColumns ∧ SortsNumbers "line" (.text "desc") assorted := by
  have hbounded : ∀ r ∈ assorted, ∀ n : Int,
      field r ["line"] = .int n → n.natAbs < Binary64.overflowBound := by
    refine List.forall_iff_forall_mem.1 ⟨nofun, nofun, nofun, nofun, fun n hn => ?_, nofun⟩
    obtain rfl := Value.int.inj hn
    exact Nat.sub_one_lt_of_lt Binary64.overflowBound_pos
  exact ⟨by decide, (sortsNumbers_iff (by decide) (.text "desc") assorted).2 hbounded⟩

/-- A record that has an integer beyond the format. -/
def boundless : Value := .map [("refs", .int (10 ^ 400 : Nat))]

theorem key_boundless : key (.text "refs") boundless = .error .outOfRange := by
  have hfield : field boundless ["refs"] = .int (10 ^ 400 : Nat) := rfl
  have hnone : Binary64.ofInt? (10 ^ 400 : Nat) = none := by
    rw [Binary64.ofInt?_eq_none_iff, Int.natAbs_natCast]
    decide +kernel
  rw [key_number (by decide), hfield, numberOf_int, hnone]
  rfl

/-- A list that cannot be sorted by a column of numbers. -/
theorem not_sortsNumbers_boundless :
    "refs" ∈ numberColumns ∧
      sort (.text "refs") (.text "asc") (.list [boundless]) = .error .outOfRange ∧
      ¬ SortsNumbers "refs" (.text "asc") [boundless] := by
  have hsort : sort (.text "refs") (.text "asc") (.list [boundless]) = .error .outOfRange := by
    simp [sort, sortBy, keyed, key_boundless, bind, Except.bind, Except.map]
  refine ⟨by decide, hsort, fun hsorted => ?_⟩
  obtain ⟨sorted, h⟩ := hsorted.returns
  rw [hsort] at h
  cases h

end SymbolSieve.Sorting
