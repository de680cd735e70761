import SymbolSieve.Backend.Host
import SymbolSieve.Backend.Percent
import SymbolSieve.Number.Reading

/-!
# Addresses

The address of a service has a scheme, an authority with the host, a path, and perhaps a query; each
of them may be empty. A path is read segment by segment: a dot stands for the place itself and two
dots for the place above.

Paths and queries are kept as they are sent, with percent-encoding for everything that may not stand
in them.

## What is here

* `normalPath`: a path without dot segments.
* `Authority`, `Address`: the parts of an address, and `Address.ofText?`.
* `Address.target`, `Address.withTarget`: the path of an address together with its query.
* `Address.below`: an address inside a service at another one.
-/

set_option autoImplicit false

namespace SymbolSieve

/-- A text without the slashes at its end. -/
def dropSlashes (s : String) : String :=
  String.ofList (s.toList.reverse.dropWhile (· == '/')).reverse

/-- The user, the host and the number behind the host in an address. -/
structure Authority where
  user : List Char := []
  host : List Char := []
  number : Option Int := none
  deriving DecidableEq, Repr

/-- An address. -/
structure Address where
  scheme : List Char := []
  authority : Authority := {}
  path : List Char := []
  query : Option (List Char) := none
  deriving DecidableEq, Repr

namespace Address

/-! ## Paths -/

/-- One segment added to those before it: a dot adds nothing, and two dots take the last one
away. -/
def pushSegment (out : List (List Char)) (segment : List Char) : List (List Char) :=
  if segment = ['.'] then out
  else if segment = ['.', '.'] then (if out.isEmpty || out = [[]] then out else out.dropLast)
  else out ++ [segment]

/-- A path without dot segments. -/
def normalPath (path : List Char) : List Char :=
  List.intercalate ['/'] ((Text.splitAt '/' path).foldl pushSegment [])

/-! ## Characters -/

/-- Whether a character of ASCII is no printable one. -/
def isControl (c : Char) : Bool := c.toNat < 0x20 || c.toNat = 0x7F

/-- Whether a character may stand in a query. -/
def inQuery (c : Char) : Bool :=
  0x20 < c.toNat && c.toNat < 0x7F && ! List.elem c ['\x22', '#', '<', '>']

/-- Whether a character may stand in a path. -/
def inPath (c : Char) : Bool := inQuery c && ! List.elem c ['?', '\x60', '\x7b', '\x7d']

/-- The greatest number of characters in an address and in its parts. -/
def lengthLimit : Nat := 65536

/-! ## Parts -/

/-- The scheme at the start of a text, in lower case, and what follows its colon. A scheme is a
letter with letters, digits and three marks behind it, or it is empty. -/
def takeScheme (s : List Char) : List Char × List Char :=
  let isMark (c : Char) : Bool := c = '+' || c = '.' || c = '-'
  let scheme := s.takeWhile fun c => c.isAlphanum || isMark c
  match s.drop scheme.length with
  | ':' :: rest =>
    if (scheme.head?.map Char.isAlpha).getD true then (scheme.map Char.toLower, rest) else ([], s)
  | _ => ([], s)

/-- The text of the authority at the start of a text, and what follows it. -/
def takeAuthority : List Char → List Char × List Char
  | '/' :: '/' :: rest =>
    let isEnd (c : Char) : Bool := c = '/' || c = '?' || c = '#'
    (rest.takeWhile (! isEnd ·), rest.dropWhile (! isEnd ·))
  | s => ([], s)

/-- A text up to the last place where a character stands, and what follows it; nothing if the
character is not there. -/
def splitLast? (c : Char) (s : List Char) : Option (List Char × List Char) :=
  if s.contains c then
    let after := (s.reverse.takeWhile (· != c)).reverse
    some (s.take (s.length - after.length - 1), after)
  else none

/-- The host at the start of a text, and what follows it. A host in brackets ends with the last
bracket. -/
def takeHost (s : List Char) : List Char × List Char :=
  match s, splitLast? ']' s with
  | '[' :: _, some (front, rest) => (front ++ [']'], rest)
  | _, _ => (s.takeWhile (· != ':'), s.dropWhile (· != ':'))

/-- The number that follows a host, perhaps behind a colon; nothing if it is no integer. -/
def readNumber (s : List Char) : Option (Option Int) :=
  let digits := match s with
    | ':' :: rest => rest
    | _ => s
  if digits.isEmpty then some none
  else match Number.readInt (String.ofList digits) with
    | .ok n => some (some n)
    | .error _ => none

/-- The authority that a text stands for, if its host and its number are valid. -/
def readAuthority (s : List Char) : Option Authority :=
  let (user, rest) := (splitLast? '@' s).getD ([], s)
  let (host, rest) := takeHost rest
  if Host.isValid host then (readNumber rest).map fun number => { user, host, number }
  else none

/-! ## Addresses -/

/-- An address with a path and a query, which are still to be encoded. With an authority, the path
has to start at the root; without scheme and authority it may not look as if it had them. -/
def withParts (a : Address) (path : List Char) (query : Option (List Char)) : Option Address :=
  let isPlace := a.authority != {}
  let isComplete := isPlace || !a.scheme.isEmpty
  let startsWith (s : List Char) : Bool := s.isPrefixOf path
  if isPlace && !path.isEmpty && !startsWith ['/'] then none
  else if !isComplete && (startsWith ['/', '/'] || startsWith [':']) then none
  else
    let path := Percent.encode inPath (if isComplete then normalPath path else path)
    some { a with path, query := query.map (Percent.encode inQuery) }

/-- The address that a text stands for. What follows a number sign does not count. -/
def ofText? (s : String) : Option Address :=
  let s := s.toList
  if lengthLimit < s.length || s.any isControl then none
  else do
    let (scheme, rest) := takeScheme s
    let (authority, rest) := takeAuthority rest
    let (path, query) := Percent.splitQuery (rest.takeWhile (· != '#'))
    withParts { scheme, authority := ← readAuthority authority } path query

/-- The path of an address together with its query; an empty path is the root. -/
def target (a : Address) : List Char :=
  (if a.path.isEmpty then ['/'] else a.path) ++ (match a.query with
    | some query => '?' :: query
    | none => [])

/-- An address with another path and query. -/
def withTarget (a : Address) (target : List Char) : Option Address :=
  let (path, query) := Percent.splitQuery target
  if lengthLimit < path.length || lengthLimit < (query.getD []).length then none
  else withParts a path query

/-- Whether an address names a scheme and a host. -/
def isAbsolute (a : Address) : Bool := !a.scheme.isEmpty && !a.authority.host.isEmpty

/-- An address as the root of a service: it ends with a slash. -/
def asRoot (a : Address) : Option Address :=
  if a.target.getLast? = some '/' then some a else withTarget a (a.target ++ ['/'])

/-- An address inside a service at a root, unless it is absolute. -/
def below (root a : Address) : Option Address :=
  if a.isAbsolute then some a else root.withTarget (root.target ++ a.target.dropWhile (· == '/'))

/-- Whether an address says how it is to be reached: something other than a slash stands before its
first colon. -/
def isReachable (a : Address) : Bool :=
  let first := a.target.takeWhile (· != '/')
  !a.scheme.isEmpty || (a.authority = {} && first.contains ':' && first.head? != some ':')

end Address

end SymbolSieve
