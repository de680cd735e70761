import SymbolSieve.Value.Shown

/-!
# The items of a value

Where a list is expected, every value that can be gone through is accepted: the items of a list, the
characters of a text, and the keys of a mapping. Where a mapping is expected, a list of pairs may
stand for one.

## What is here

* `Value.items`, `Value.size`: the items of a value.
* `Value.entries`: the entries of a mapping.
* `Value.pairs`: the entries that the items of a value make up.
-/

set_option autoImplicit false

namespace SymbolSieve.Value

/-- The items of a value that can be gone through. -/
def items : Value → Except ValueFault (List Value)
  | list vs => .ok vs
  | text s => .ok (s.toList.map fun c => text (String.singleton c))
  | map entries => .ok (entries.map fun e => text e.1)
  | _ => .error .wrongKind

/-- The number of items of a value that can be gone through. -/
def size : Value → Except ValueFault Nat
  | list vs => .ok vs.length
  | text s => .ok s.length
  | map entries => .ok entries.length
  | _ => .error .wrongKind

@[simp] theorem items_list (vs : List Value) : items (list vs) = .ok vs := rfl

theorem size_eq_length_items (v : Value) : v.size = v.items.map List.length := by
  cases v <;> simp [size, items, Except.map, String.length_toList]

/-! ## Entries -/

/-- The entries of a mapping. -/
def entries : Value → Except ValueFault Entries
  | map entries => .ok entries
  | v => .error (v.lackOf "items")

/-- The entry that a value of two items makes up. -/
def pair (v : Value) : Except ValueFault (String × Value) := do
  match ← v.items with
  | [key, x] => if key.isKey then return (← key.shown, x) else throw .wrongKind
  | _ => throw .malformed

/-- The entries that a value makes up: its own, or those that its items are. -/
def pairs : Value → Except ValueFault Entries
  | map entries => .ok entries
  | v => do return Assoc.ofPairs (← (← v.items).mapM pair)

/-- The entries of a mapping, or those that the items of a list make up. -/
def entriesOrPairs : Value → Except ValueFault Entries
  | list vs => pairs (list vs)
  | v => entries v

end SymbolSieve.Value
