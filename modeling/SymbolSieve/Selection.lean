import SymbolSieve.Glob.Expression
import SymbolSieve.Record
import SymbolSieve.Spec.Basic

/-!
# Selecting records

A record is selected by a specification when it passes the test of every field. The tests are made
in the order of the fields and end at the first that fails, so a record that is rejected early may
have anything in its other fields.

## What is here

* `passes`: the test of one field.
* `selects`: whether a record passes all tests.
* `select`: the records of a list that are selected, in order.
-/

set_option autoImplicit false

namespace SymbolSieve.Selection

/-! ## Tests -/

/-- Whether `needle` occurs in a text. -/
def occursIn (needle : List Char) : List Char → Bool
  | [] => needle.isEmpty
  | c :: rest => needle.isPrefixOf (c :: rest) || occursIn needle rest

/-- The text to search for is empty, or occurs in the name or the path, in lower case. -/
def passesSearch (search record : Value) : Except ValueFault Bool :=
  if !search.truthy then .ok true
  else do
    let needle := (← search.lowered).toList
    if occursIn needle (← (Record.name record).lowered).toList then return true
    return occursIn needle (← (Record.path record).lowered).toList

/-- The kind is `all`, or that of the record, in lower case. -/
def passesKind (kind record : Value) : Except ValueFault Bool :=
  if kind.equal (.text "all") then .ok true
  else do
    let found := Text.lower (← Record.kind record)
    return found == (← kind.lowered)

/-- The state is `all`, or one that the record is in. A symbol without references is dead even if
it is not flagged, and every other symbol that is not flagged is used. An unknown state constrains
nothing. -/
def passesState (state record : Value) : Bool :=
  if state.equal (.text "dead") then
    Record.isDead record || (Record.refs record).equal (.int 0)
  else if state.equal (.text "used") then
    !Record.isDead record && !(Record.refs record).equal (.int 0)
  else if state.equal (.text "cycle") then Record.isInCycle record
  else if state.equal (.text "entry") then Record.isEntry record
  else true

/-- Whether a pattern matches a path; what is missing counts as an empty path. -/
def passesGlob (pattern path : Value) : Except ValueFault Bool :=
  match pattern, path.orElse (.text "") with
  | .text pattern, .text path => (Glob.compiled pattern).map (·.accepts path)
  | _, _ => .error .wrongKind

/-- The pattern is empty, or matches the path. -/
def passesFile (file record : Value) : Except ValueFault Bool :=
  if !file.truthy then .ok true else passesGlob file (Record.path record)

/-- The number of references of a record, a record that does not report it having none. -/
def refsCount (record : Value) : Value := (Record.refs record).orElse (.int 0)

/-- There is no least number of references, or the record has as many. -/
def passesMin (min record : Value) : Except ValueFault Bool :=
  if min.isNull then .ok true else ((refsCount record).less min).map (!·)

/-- There is no greatest number of references, or the record has no more. -/
def passesMax (max record : Value) : Except ValueFault Bool :=
  if max.isNull then .ok true else (max.less (refsCount record)).map (!·)

/-- Nothing is asked about a count, or it is positive where presence is asked for and zero where
absence is. -/
def passesPresence (wanted count : Value) : Except ValueFault Bool :=
  match wanted with
  | .bool true => (Value.int 0).less count
  | .bool false => .ok (count.equal (.int 0))
  | _ => .ok true

/-- Only entry points are asked for, or nothing is. -/
def passesEntry (wanted record : Value) : Bool :=
  match wanted with
  | .bool true => Record.isEntry record
  | _ => true

/-- The test of one field. -/
def passes (s : Spec) (record : Value) : Field → Except ValueFault Bool
  | .search => passesSearch s.search record
  | .kind => passesKind s.kind record
  | .state => .ok (passesState s.state record)
  | .file => passesFile s.file record
  | .minRefs => passesMin s.minRefs record
  | .maxRefs => passesMax s.maxRefs record
  | .hasCallers => passesPresence s.hasCallers (Record.callers record)
  | .hasCallees => passesPresence s.hasCallees (Record.callees record)
  | .entry => .ok (passesEntry s.entry record)

/-! ## Selection -/

/-- Whether all of some tests are passed; the first that is not ends the matter. -/
def passesAll (s : Spec) (record : Value) : List Field → Except ValueFault Bool
  | [] => .ok true
  | f :: fs => do
    if ← passes s record f then passesAll s record fs else return false

/-- Whether a record is selected. -/
def selects (s : Spec) (record : Value) : Except ValueFault Bool := passesAll s record Field.all

/-- The members of a list whose records are selected, in order. -/
def selectBy {α : Type} (record : α → Value) (s : Spec) : List α → Except ValueFault (List α)
  | [] => .ok []
  | x :: rest => do
    let chosen ← selects s (record x)
    let others ← selectBy record s rest
    return if chosen then x :: others else others

/-- The members of what stands for a list of records. Null, a text and a mapping hold no records. -/
def members : Value → Except ValueFault (List Value)
  | .null | .text _ | .map _ => .ok []
  | .list vs => .ok vs
  | _ => .error .wrongKind

/-- The selected records, in order. -/
def select (s : Spec) (records : Value) : Except ValueFault (List Value) := do
  selectBy id s (← members records)

/-- The positions of the selected records, in order. -/
def positions (s : Spec) (records : Value) : Except ValueFault (List Nat) := do
  let numbered := (← members records).zipIdx
  return (← selectBy Prod.fst s numbered).map Prod.snd

end SymbolSieve.Selection
