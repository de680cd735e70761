import SymbolSieve.Text.Digit
import SymbolSieve.Text.Split

/-!
# Hosts

The host of an address is a name or a number. What looks like a number has to be one: four numbers
with points between them, or, in brackets, up to eight numbers with colons between them.

## What is here

* `isQuad`, `isAddress4`: hosts that look like four numbers, and those that are.
* `isBracketed`, `isAddress6`: hosts in brackets, and what has to stand in them.
* `isValid`: whether a host is not a number that went wrong.
-/

set_option autoImplicit false

namespace SymbolSieve.Host

/-! ## Four numbers -/

/-- The lengths of the runs of digits in a text, with anything else between them. -/
def digitRuns (host : List Char) : List Nat :=
  (Text.splitAt '.' (host.map fun c => if c.isDigit then c else '.')).map List.length

/-- How many characters in the middle of a run of digits can stand between numbers. -/
def inside (run : Nat) : Nat := (run - 1) / 2

/-- Whether a host looks like four numbers with any one character between each two of them. A digit
can be that character as well. -/
def isQuad (host : List Char) : Bool :=
  let runs := digitRuns host
  let between := runs.length - 1
  runs.all (0 < ·) && between ≤ 3 && 3 ≤ runs.foldl (fun n run => n + inside run) between

/-- Whether a text is a number below 256 without needless zeros. -/
def isOctet (s : List Char) : Bool :=
  s.all Char.isDigit && 1 ≤ s.length && s.length ≤ 3 && (s.length = 1 || s.head? != some '0') &&
    Text.ofDigits (s.map fun c => c.toNat - 48) < 256

/-- Whether a text is four numbers with points between them. -/
def isAddress4 (s : List Char) : Bool :=
  let parts := Text.splitAt '.' s
  parts.length = 4 && parts.all isOctet

/-! ## Eight numbers -/

/-- Whether a host stands in brackets. -/
def isBracketed (host : List Char) : Bool :=
  2 ≤ host.length && host.head? = some '[' && host.getLast? = some ']'

/-- Whether a text is a hexadecimal number of at most four digits. -/
def isGroup (s : List Char) : Bool :=
  s.all (fun c => c.isDigit || ('a' ≤ c && c ≤ 'f') || ('A' ≤ c && c ≤ 'F')) &&
    1 ≤ s.length && s.length ≤ 4

/-- The numbers of an address, the last two of which may be written as four; nothing if those are
none. -/
def groups (parts : List (List Char)) : Option (List (List Char)) :=
  match parts.getLast? with
  | none => some parts
  | some last =>
    if !last.contains '.' then some parts
    else if isAddress4 last then some (parts.dropLast ++ [['0'], ['0']])
    else none

/-- Whether numbers make up an address: eight of them, or fewer with a gap. A gap is an empty place
inside, and only a gap at an end may have an empty place next to it. -/
def makeAddress (parts : List (List Char)) : Bool :=
  let middle := (parts.drop 1).dropLast
  let front := parts.takeWhile (! List.isEmpty ·)
  match (middle.filter List.isEmpty).length with
  | 0 => parts.length = 8 && parts.all isGroup
  | 1 =>
    let gap := 1 + (middle.takeWhile (! List.isEmpty ·)).length
    let before := parts.take gap
    let after := parts.drop (gap + 1)
    let before := if front.isEmpty && gap = 1 then [] else before
    let after := if after = [[]] then [] else after
    before.all isGroup && after.all isGroup && before.length + after.length < 8
  | _ => false

/-- Whether a text is an address of up to eight numbers, perhaps with the name of a zone. -/
def isAddress6 (s : List Char) : Bool :=
  let zone := s.dropWhile (· != '%')
  let parts := Text.splitAt ':' (s.takeWhile (· != '%'))
  let zoneOk := zone.isEmpty || (zone.length != 1 && !(zone.drop 1).contains '%')
  zoneOk && 3 ≤ parts.length && match groups parts with
    | some parts => parts.length ≤ 9 && makeAddress parts
    | none => false

/-! ## Validity -/

/-- Whether a host is not a number that went wrong. -/
def isValid (host : List Char) : Bool :=
  if isQuad host then isAddress4 host
  else if isBracketed host then isAddress6 ((host.drop 1).dropLast)
  else true

end SymbolSieve.Host
