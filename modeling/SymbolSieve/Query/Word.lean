import SymbolSieve.Spec.Basic
import SymbolSieve.Vocabulary
import SymbolSieve.Number.Reading

/-!
# The words of a query

A query is a sequence of words. A word with one of eight labels sets filters; every other word is
searched for. Labels are recognised in any case, and what follows the label is its value. A label
with a value that it does not accept sets nothing, and is not searched for either.

| word | meaning |
| --- | --- |
| `kind:function` | only functions |
| `state:dead` | only dead symbols, or `used`, `cycle`, `entry` |
| `file:src/*` | only paths that match the pattern |
| `refs:>10`, `refs:<5`, `refs:3` | at least, at most, or exactly so many references |
| `callers:0`, `callees:>5` | no callers, or at least one callee |
| `has:callers`, `has:callees` | at least one |
| `entry:true` | only entry points |

## What is here

* `Label`: the eight labels.
* `Label.settings`: the fields that a labelled value sets.
* `readWord`: what a word says.
-/

set_option autoImplicit false

namespace SymbolSieve.Query

open Text

/-! ## Labels -/

/-- The labels of words. -/
inductive Label where
  | kind | state | file | refs | callers | callees | entry | has
  deriving DecidableEq, Repr

namespace Label

/-- All labels. -/
def all : List Label := [kind, state, file, refs, callers, callees, entry, has]

/-- The written form of a label, colon included. -/
def text : Label → List Char
  | kind => "kind:".toList
  | state => "state:".toList
  | file => "file:".toList
  | refs => "refs:".toList
  | callers => "callers:".toList
  | callees => "callees:".toList
  | entry => "entry:".toList
  | has => "has:".toList

/-- The label whose written form starts a word, when the word is in lower case. -/
def ofLower? (word : List Char) : Option Label := all.find? (·.text.isPrefixOf word)

end Label

/-! ## Values of labels -/

/-- A value that sets one field. -/
abbrev Setting := Field × Value

/-- The integer at the start of a value. -/
def leadingInt (value : List Char) : Except ValueFault (Option Int) :=
  match Number.leadingInt value with
  | .ok n => .ok n
  | .error _ => .error .tooManyDigits

/-- What a bound on references sets: `>` gives the least number, `<` the greatest, and a plain
number gives both. -/
def refsSettings : List Char → Except ValueFault (List Setting)
  | '>' :: value => (leadingInt value).map fun n => (n.map fun n => (Field.minRefs, .int n)).toList
  | '<' :: value => (leadingInt value).map fun n => (n.map fun n => (Field.maxRefs, .int n)).toList
  | value => (leadingInt value).map fun
    | some n => [(.minRefs, .int n), (.maxRefs, .int n)]
    | none => []

/-- Whether a value asks for presence or for absence: zero asks for absence, a positive number or
a `>` with anything for presence, and all else is ignored. -/
def presence? : List Char → Except ValueFault (Option Bool)
  | '>' :: _ => .ok (some true)
  | value => (leadingInt value).map fun
    | some n => if n = 0 then some false else if 0 < n then some true else none
    | none => none

/-- What a value that asks for presence or absence sets. -/
def presenceSettings (f : Field) (value : List Char) : Except ValueFault (List Setting) :=
  (presence? value).map fun p => (p.map fun b => (f, .bool b)).toList

/-- What `has:` sets. -/
def hasSettings (value : List Char) : List Setting :=
  let name := lower (String.ofList value)
  if name = "callers" then [(.hasCallers, .bool true)]
  else if name = "callees" then [(.hasCallees, .bool true)]
  else []

/-- The fields that a labelled value sets, in order. -/
def Label.settings (label : Label) (value : List Char) : Except ValueFault (List Setting) :=
  let word := String.ofList value
  match label with
  | .kind => .ok (if Vocabulary.kindWords.contains word then [(.kind, .text word)] else [])
  | .state => .ok (if Vocabulary.stateWords.contains word then [(.state, .text word)] else [])
  | .file => .ok [(.file, .text word)]
  | .refs => refsSettings value
  | .callers => presenceSettings .hasCallers value
  | .callees => presenceSettings .hasCallees value
  | .entry => .ok [(.entry, .bool (lower word == "true"))]
  | .has => .ok (hasSettings value)

/-! ## Words -/

/-- What a word says. -/
inductive Reading where
  /-- The word is searched for. -/
  | free
  /-- The word sets fields. -/
  | sets (settings : List Setting)

/-- What a word says. The label is looked for in the lower-case form of the word, and the value is
taken from the word as it was written. -/
def readWord (word : String) : Except ValueFault Reading :=
  match Label.ofLower? (lower word).toList with
  | some label => (label.settings (word.toList.drop label.text.length)).map .sets
  | none => .ok .free

end SymbolSieve.Query
