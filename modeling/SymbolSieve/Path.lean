import SymbolSieve.Text.Split

/-!
# Paths of files

A path is written as names with slashes between them. Repeated slashes and dots do not count, so a
path has one normal form; two dots stay as they are, since the place above may be reached through a
link.

## What is here

* `Path`: whether a path starts at the root, and its names; `Path.ofText` and `Path.text`.
* `parent`, `join`: the path above, and a path below another one.
* `trail`: the directories that exist once a path has been made.
-/

set_option autoImplicit false

namespace SymbolSieve

/-- A path: the slashes at its start, none, one or two, and its names. -/
structure Path where
  slashes : Nat
  names : List String
  deriving DecidableEq, Repr

namespace Path

/-- The number of slashes that a path keeps at its start: exactly two are kept, and any other number
counts as one. -/
def slashesKept (s : List Char) : Nat :=
  match (s.takeWhile (· == '/')).length with
  | 0 => 0
  | 2 => 2
  | _ => 1

/-- The path that a text names. -/
def ofText (s : String) : Path :=
  { slashes := slashesKept s.toList
    names := (Text.split '/' s).filter fun name => name != "" && name != "." }

/-- The text of a path; a path without names and slashes is a dot. -/
def text (p : Path) : String :=
  if p.slashes = 0 && p.names.isEmpty then "."
  else String.ofList (List.replicate p.slashes '/') ++ "/".intercalate p.names

/-- The greatest number of bytes in a name. -/
def nameLimit : Nat := 255

/-- The greatest number of bytes in a path. -/
def lengthLimit : Nat := 4095

/-- Whether a path, or a name in it, has more bytes than it can have. -/
def isTooLong (p : Path) : Bool :=
  lengthLimit < p.text.utf8ByteSize || p.names.any fun name => nameLimit < name.utf8ByteSize

/-- The path above. -/
def parent (p : Path) : Path := { p with names := p.names.dropLast }

/-- A path below another one; a path that starts at the root stays as it is. -/
def join (p q : Path) : Path :=
  if q.slashes = 0 then { p with names := p.names ++ q.names } else q

/-- The directories, each as the names that lead to it, that a walk along some names passes; two
dots lead back. The first argument holds the directory where the walk is. -/
def trailFrom (here : List String) : List String → List (List String)
  | [] => []
  | name :: rest =>
    if name = ".." then trailFrom here.dropLast rest
    else (here ++ [name]) :: trailFrom (here ++ [name]) rest

/-- The directories below a place that exist once a path has been made with everything above it. -/
def trail (place p : Path) : List Path :=
  if place.slashes = p.slashes && place.names.isPrefixOf p.names then
    (trailFrom [] (p.names.drop place.names.length)).map fun names =>
      { place with names := place.names ++ names }
  else []

end Path

end SymbolSieve
