import SymbolSieve.Json.Limits
import SymbolSieve.Value.Shown

/-!
# Writing JSON text

Stored documents, exports and answers are JSON text. Keys stay in order, characters outside ASCII
are written as escapes of their UTF-16 units, and floating-point numbers by their shortest decimal.

## What is here

* `obstacle?`: what keeps a value from being written, if anything.
* `text`: the JSON text of a value on one line.
* `encode`: the JSON text of a value that can be written.
* `indented`: the JSON text of a value over several lines.
-/

set_option autoImplicit false

namespace SymbolSieve.Json

/-- Why a value cannot be written. -/
inductive Obstacle where
  | object (kind : String)
  | longInteger
  | tooDeep
  deriving DecidableEq, Repr

/-- The words for an obstacle. -/
def Obstacle.message : Obstacle → String
  | .object kind => "Object of type " ++ kind ++ " is not JSON serializable"
  | .longInteger => "Exceeds the limit (4300 digits) for integer string conversion; " ++
      "use sys.set_int_max_str_digits() to increase the limit"
  | .tooDeep => "maximum recursion depth exceeded while encoding a JSON object"

mutual

/-- The first part of a value that cannot be written, in the order of the text. The number says how
deeply lists and mappings may be nested. -/
def obstacle? (depth : Nat) : Value → Option Obstacle
  | .int n => if writableInt n then none else some .longInteger
  | .list items => if depth = 0 then some .tooDeep else obstacleItems? (depth - 1) items
  | .map entries => if depth = 0 then some .tooDeep else obstacleEntries? (depth - 1) entries
  | .object attributes => some (.object (Value.object attributes).kindName)
  | _ => none

/-- The first obstacle in a list. -/
def obstacleItems? (depth : Nat) : List Value → Option Obstacle
  | [] => none
  | v :: rest => (obstacle? depth v).or (obstacleItems? depth rest)

/-- The first obstacle in a mapping. -/
def obstacleEntries? (depth : Nat) : List (String × Value) → Option Obstacle
  | [] => none
  | (_, v) :: rest => (obstacle? depth v).or (obstacleEntries? depth rest)

end

/-! ## Scalars -/

/-- The escape of a UTF-16 unit. -/
def unitEscape (n : Nat) : List Char := ['\\', 'u'] ++ Text.hexText 4 n

/-- One character inside a JSON string. -/
def escapedChar (c : Char) : List Char :=
  if c = Text.doubleQuote then ['\\', c]
  else if c = '\\' then ['\\', '\\']
  else if c = '\n' then ['\\', 'n']
  else if c = '\r' then ['\\', 'r']
  else if c = '\t' then ['\\', 't']
  else if c.toNat = 0x0C then ['\\', 'f']
  else if c.toNat = 0x08 then ['\\', 'b']
  else if 0x20 ≤ c.toNat && c.toNat < 0x7F then [c]
  else if c.toNat < 0x10000 then unitEscape c.toNat
  else unitEscape (0xD800 + (c.toNat - 0x10000) / 0x400) ++
    unitEscape (0xDC00 + (c.toNat - 0x10000) % 0x400)

/-- A JSON string. -/
def stringText (s : String) : List Char :=
  Text.doubleQuote :: s.toList.flatMap escapedChar ++ [Text.doubleQuote]

/-- A JSON number, or one of the three names for what is no finite number. -/
def floatText : Binary64 → List Char
  | .nan => "NaN".toList
  | .infinite negative => if negative then "-Infinity".toList else "Infinity".toList
  | x => x.text.toList

/-- The text of a value that has no parts. An object is written as a string that shows it. -/
def scalarText : Value → List Char
  | .null => "null".toList
  | .bool b => if b then "true".toList else "false".toList
  | .int n => (Text.intText n).toList
  | .float x => floatText x
  | .text s => stringText s
  | v => stringText (match v.shown with | .ok s => s | .error _ => "")

/-! ## One line -/

mutual

/-- The JSON text of a value on one line. -/
def text : Value → List Char
  | .list items => '[' :: textItems items ++ [']']
  | .map entries => '\x7b' :: textEntries entries ++ ['\x7d']
  | v => scalarText v

/-- The items of a list, separated by a comma and a space. -/
def textItems : List Value → List Char
  | [] => []
  | [v] => text v
  | v :: rest => text v ++ [',', ' '] ++ textItems rest

/-- The entries of a mapping, separated by a comma and a space. -/
def textEntries : List (String × Value) → List Char
  | [] => []
  | [(k, v)] => stringText k ++ [':', ' '] ++ text v
  | (k, v) :: rest => stringText k ++ [':', ' '] ++ text v ++ [',', ' '] ++ textEntries rest

end

/-- The JSON text of a value, unless something keeps it from being written. -/
def encode (v : Value) : Except Obstacle String :=
  match obstacle? depthLimit v with
  | some o => .error o
  | none => .ok (String.ofList (text v))

/-! ## Several lines -/

/-- A line break and the indentation of a depth, two spaces each. -/
def lineBreak (depth : Nat) : List Char := '\n' :: List.replicate (2 * depth) ' '

mutual

/-- The JSON text of a value over several lines, at a depth of indentation. -/
def indentedFrom (depth : Nat) : Value → List Char
  | .list [] => ['[', ']']
  | .list items =>
    '[' :: indentedItems (depth + 1) items ++ lineBreak depth ++ [']']
  | .map [] => ['\x7b', '\x7d']
  | .map entries =>
    '\x7b' :: indentedEntries (depth + 1) entries ++ lineBreak depth ++ ['\x7d']
  | v => scalarText v

/-- The items of a list, each on lines of its own. -/
def indentedItems (depth : Nat) : List Value → List Char
  | [] => []
  | [v] => lineBreak depth ++ indentedFrom depth v
  | v :: rest => lineBreak depth ++ indentedFrom depth v ++ [','] ++ indentedItems depth rest

/-- The entries of a mapping, each on lines of its own. -/
def indentedEntries (depth : Nat) : List (String × Value) → List Char
  | [] => []
  | [(k, v)] => lineBreak depth ++ stringText k ++ [':', ' '] ++ indentedFrom depth v
  | (k, v) :: rest =>
    lineBreak depth ++ stringText k ++ [':', ' '] ++ indentedFrom depth v ++ [','] ++
      indentedEntries depth rest

end

/-- The JSON text of a value over several lines. -/
def indented (v : Value) : String := String.ofList (indentedFrom 0 v)

end SymbolSieve.Json
