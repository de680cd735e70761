import SymbolSieve.Value.Basic

/-!
# Complaints about values

A value from outside is read into a form of the library, or there are complaints about it: each says
where the fault lies, of what kind it is, and what value was given. All faults are reported, in the
order of the fields.

## What is here

* `Place`, `ComplaintKind`, `Complaint`: where a fault lies, and what it is.
* `Checked`: a result, or complaints.
* `Checked.both`, `Checked.within`: results side by side, and results further inside.
-/

set_option autoImplicit false

namespace SymbolSieve

/-- One step towards a fault: the name of a field, or a number. -/
inductive Place where
  | field (name : String)
  | position (n : Nat)
  deriving DecidableEq, Repr

/-- The kinds of fault. -/
inductive ComplaintKind where
  /-- A value that is required is missing. -/
  | missing
  /-- The text is not JSON. -/
  | notJson
  /-- The value has no fields. -/
  | noFields
  | notList
  | notMapping
  | notText
  | shortText
  /-- The text is none of those that are allowed. -/
  | otherText
  | notInteger
  /-- The text does not read as an integer. -/
  | unreadInteger
  /-- The number has a fraction. -/
  | fraction
  /-- The number is infinite, or none. -/
  | notFinite
  /-- The integer is larger than what is read. -/
  | largeInteger
  | notTruth
  /-- The text or number stands for no truth value. -/
  | unreadTruth
  deriving DecidableEq, Repr

/-- The code of a kind of fault. -/
def ComplaintKind.code : ComplaintKind → String
  | missing => "missing"
  | notJson => "json_invalid"
  | noFields => "model_attributes_type"
  | notList => "list_type"
  | notMapping => "dict_type"
  | notText => "string_type"
  | shortText => "string_too_short"
  | otherText => "string_pattern_mismatch"
  | notInteger => "int_type"
  | unreadInteger => "int_parsing"
  | fraction => "int_from_float"
  | notFinite => "finite_number"
  | largeInteger => "int_parsing_size"
  | notTruth => "bool_type"
  | unreadTruth => "bool_parsing"

/-- A fault: where it lies, from the outside to the inside, what it is, and the value at fault.
Where something is missing, that is the value in which it should be. -/
structure Complaint where
  places : List Place
  kind : ComplaintKind
  given : Value

/-- A result, or the complaints that stand in its way. -/
abbrev Checked (α : Type) := Except (List Complaint) α

namespace Checked

variable {α β : Type}

/-- A single complaint, about the value at hand. -/
def fail (kind : ComplaintKind) (given : Value) : Checked α := .error [⟨[], kind, given⟩]

/-- Two results side by side. The complaints of the first come first. -/
def both : Checked α → Checked β → Checked (α × β)
  | .ok x, .ok y => .ok (x, y)
  | .ok _, .error cs => .error cs
  | .error cs, .ok _ => .error cs
  | .error cs, .error ds => .error (cs ++ ds)

/-- The result of something further inside. -/
def within (place : Place) : Checked α → Checked α
  | .ok x => .ok x
  | .error cs => .error (cs.map fun c => { c with places := place :: c.places })

end Checked

end SymbolSieve
