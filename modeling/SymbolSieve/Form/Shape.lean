import SymbolSieve.Form.Complaint

/-!
# Reading lists and fields

## What is here

* `list`, `mapping`: readers for lists and mappings.
* `fields`, `required`, `withDefault`: readers for values with fields. Fields that are not asked for
  are of no interest.
-/

set_option autoImplicit false

namespace SymbolSieve.Form

variable {α : Type}

/-- Reads the items of a list, each at its position. -/
def items (read : Value → Checked α) (start : Nat) : List Value → Checked (List α)
  | [] => .ok []
  | v :: rest =>
    (Checked.both ((read v).within (.position start)) (items read (start + 1) rest)).map
      fun p => p.1 :: p.2

/-- Reads a list. -/
def list (read : Value → Checked α) : Value → Checked (List α)
  | .list vs => items read 0 vs
  | v => .fail .notList v

/-- Reads a mapping as it is. -/
def mapping : Value → Checked Value
  | .map es => .ok (.map es)
  | v => .fail .notMapping v

/-- Reads a value with fields. -/
def fields (read : Entries → Checked α) : Value → Checked α
  | .map es => read es
  | v => .fail .noFields v

/-- Reads a field that has to be there. -/
def required (name : String) (read : Value → Checked α) (es : Entries) : Checked α :=
  Checked.within (.field name) (match Assoc.get? name es with
    | some v => read v
    | none => .fail .missing (.map es))

/-- Reads a field that may be left out. -/
def withDefault (name : String) (default : α) (read : Value → Checked α) (es : Entries) :
    Checked α :=
  match Assoc.get? name es with
  | some v => (read v).within (.field name)
  | none => .ok default

end SymbolSieve.Form
