import SymbolSieve.Value.Basic
import SymbolSieve.Number.Reading
import SymbolSieve.Number.Shortest
import SymbolSieve.Text.Quoted

/-!
# Values as text

Labels, messages and canonical queries show values as text. A text is shown as it is, except inside
a list or a mapping, where it stands in quotes.

## What is here

* `Value.quoted`: the text of a value in which texts stand in quotes.
* `Value.shown`: the text of a value; a text is its own text.
* `Value.lowered`: the lower-case form of a text.

An integer with more than `digitLimit` digits has no text, nor has a value that holds one.
-/

set_option autoImplicit false

namespace SymbolSieve

/-- Whether an integer has no more digits than are written. -/
def writableInt (n : Int) : Bool := n.natAbs < Nat.pow 10 digitLimit

/-- The text of an integer, if it is not too long. -/
def intShown (n : Int) : Except ValueFault String :=
  if writableInt n then .ok (Text.intText n) else .error .tooManyDigits

namespace Value

mutual

/-- The text of a value in which texts stand in quotes. -/
def quoted : Value → Except ValueFault String
  | null => .ok "None"
  | bool b => .ok (if b then "True" else "False")
  | int n => intShown n
  | float x => .ok x.text
  | text s => .ok (Text.quoted s)
  | list items => do return "[" ++ ", ".intercalate (← quotedItems items) ++ "]"
  | map entries => do return "\x7b" ++ ", ".intercalate (← quotedEntries entries) ++ "\x7d"
  | object attributes => do
    return "namespace(" ++ ", ".intercalate (← quotedAttributes attributes) ++ ")"

/-- The texts of the items of a list. -/
def quotedItems : List Value → Except ValueFault (List String)
  | [] => .ok []
  | v :: rest => do return (← quoted v) :: (← quotedItems rest)

/-- The texts of the entries of a mapping: a key, a colon and a value. -/
def quotedEntries : List (String × Value) → Except ValueFault (List String)
  | [] => .ok []
  | (k, v) :: rest => do
    return (Text.quoted k ++ ": " ++ (← quoted v)) :: (← quotedEntries rest)

/-- The texts of the attributes of an object: a name, an equals sign and a value. One without a name
is not shown. -/
def quotedAttributes : List (String × Value) → Except ValueFault (List String)
  | [] => .ok []
  | (k, v) :: rest =>
    if k.isEmpty then quotedAttributes rest
    else do return (k ++ "=" ++ (← quoted v)) :: (← quotedAttributes rest)

end

/-- The text of a value. -/
def shown : Value → Except ValueFault String
  | text s => .ok s
  | v => quoted v

@[simp] theorem shown_text (s : String) : shown (text s) = .ok s := rfl

/-- The lower-case form of a text. Nothing else has one. -/
def lowered : Value → Except ValueFault String
  | text s => .ok (Text.lower s)
  | v => .error (v.lackOf "lower")

end Value

end SymbolSieve
