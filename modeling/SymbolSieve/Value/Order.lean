import SymbolSieve.Value.Basic

/-!
# Equality and order of values

Numbers of all kinds are compared by what they denote, exactly: the truth values are one and zero,
and an integer equals the floating-point number with the same value. Values of different kinds are
different, and have no order.

## What is here

* `Value.equal`: equality, which is `==` on values. Not-a-number does not equal itself.
* `Value.less`: the strict order of numbers, of texts by code points, and of lists by their first
  difference.
-/

set_option autoImplicit false

namespace SymbolSieve

namespace Value

/-- A number as an exact fraction; truth values are numbers. -/
def number? : Value → Option Binary64
  | bool b => some (.finite false b.toNat 0)
  | int n => some (.finite (n < 0) n.natAbs 0)
  | float x => some x
  | _ => none

/-- The integer that a value denotes, if it is an integer or a truth value. -/
def integer? : Value → Option Int
  | bool b => some b.toNat
  | int n => some n
  | _ => none

/-- The order of two numbers. -/
def compareNumbers? (v w : Value) : Option Ordering :=
  match v.integer?, w.integer? with
  | some m, some n => some (compare m n)
  | _, _ => match v.number?, w.number? with
    | some x, some y => x.compare? y
    | _, _ => none

/-! ## Equality -/

mutual

/-- Equality of values. -/
def equal : Value → Value → Bool
  | null, null => true
  | text s, text t => s == t
  | list vs, list ws => equalLists vs ws
  | map es, map fs => es.length == fs.length && equalEntries es fs
  | object es, object fs => es.length == fs.length && equalEntries es fs
  | v, w => compareNumbers? v w == some .eq

/-- Equality of lists, item by item. -/
def equalLists : List Value → List Value → Bool
  | [], [] => true
  | v :: vs, w :: ws => equal v w && equalLists vs ws
  | _, _ => false

/-- Whether every entry has an equal one under the same key. -/
def equalEntries : List (String × Value) → List (String × Value) → Bool
  | [], _ => true
  | (k, v) :: rest, fs =>
    (match Assoc.get? k fs with
      | some w => equal v w
      | none => false) && equalEntries rest fs

end

instance : BEq Value := ⟨equal⟩

theorem beq_eq_equal (v w : Value) : (v == w) = equal v w := rfl

@[simp] theorem equal_text (s t : String) : equal (text s) (text t) = (s == t) := by
  simp [equal]

@[simp] theorem equal_null_null : equal null null = true := by simp [equal]

@[simp] theorem equal_int (m n : Int) : equal (int m) (int n) = (m == n) := by
  have h : (some (compare m n) == some Ordering.eq) = (m == n) := by
    rw [Bool.eq_iff_iff, beq_iff_eq, beq_iff_eq, Option.some.injEq]
    exact Std.LawfulEqCmp.compare_eq_iff_eq
  simp only [equal, compareNumbers?, integer?]
  exact h

/-- Only a text equals a text. -/
theorem equal_text_right_iff (v : Value) (s : String) :
    equal v (text s) = true ↔ v = text s := by
  cases v <;> simp [equal, compareNumbers?, number?, integer?]

/-! ## Order -/

/-- The strict order of two values that are not lists. -/
def lessScalar (v w : Value) : Except ValueFault Bool :=
  match v, w with
  | text s, text t => .ok (decide (s < t))
  | _, _ => match v.number?, w.number? with
    | some _, some _ => .ok (compareNumbers? v w == some .lt)
    | _, _ => .error .wrongKind

mutual

/-- The strict order of values, for kinds that have one. -/
def less : Value → Value → Except ValueFault Bool
  | list vs, list ws => lessList vs ws
  | v, w => lessScalar v w

/-- The strict order of lists: that of the first two items that differ, or that of the lengths. -/
def lessList : List Value → List Value → Except ValueFault Bool
  | [], ws => .ok !ws.isEmpty
  | _ :: _, [] => .ok false
  | v :: vs, w :: ws => if equal v w then lessList vs ws else less v w

end

@[simp] theorem less_int (m n : Int) : less (int m) (int n) = .ok (decide (m < n)) := by
  have h : (some (compare m n) == some Ordering.lt) = decide (m < n) := by
    rw [Bool.eq_iff_iff, beq_iff_eq, decide_eq_true_iff, Option.some.injEq]
    exact Int.compare_eq_lt
  simp only [less, lessScalar, number?, compareNumbers?, integer?]
  rw [h]

end Value

end SymbolSieve
