import SymbolSieve.Text.Case

/-!
# Path patterns

A pattern is matched against the start of a path, without regard to case, so a plain directory such
as `src/trace` matches everything below it. A pattern that ends in `/*` is the exception: it is
closed and has to match the whole path, so it covers the files of one directory and nothing below.

| in a pattern | matches |
| --- | --- |
| `**` | any characters but line breaks |
| `*` | any characters but `/` |
| `?` | one character other than a line break |
| anything else | that character, in either case |

Two stars are read as one double star from the left, so `***` is a double star and a star. The
pattern may also spell the double star as the word `DOUBLESTAR` between two U+0000, and double stars
are brought into this form before it is looked for.

## What is here

* `Element`, `Glob`: patterns.
* `Glob.ofText`: the pattern that a text describes.
* `Glob.accepts`: whether a pattern matches a path.
-/

set_option autoImplicit false

namespace SymbolSieve

/-- What one place of a pattern matches. -/
inductive Glob.Element where
  /-- One character, in either case. -/
  | exactly (c : Char)
  /-- One character other than a line break. -/
  | one
  /-- Any run of characters other than `/`. -/
  | star
  /-- Any run of characters other than line breaks. -/
  | doubleStar
  deriving DecidableEq, Repr

/-- A path pattern. -/
structure Glob where
  elements : List Glob.Element
  /-- Whether the pattern has to match the whole path. -/
  closed : Bool
  deriving DecidableEq, Repr

namespace Glob

/-! ## Reading patterns -/

/-- The spelled form of a double star. -/
def spelledStar : List Char := '\x00' :: "DOUBLESTAR".toList ++ ['\x00']

/-- A pattern with its double stars spelled out. -/
def spellStars : List Char → List Char
  | '*' :: '*' :: rest => spelledStar ++ spellStars rest
  | c :: rest => c :: spellStars rest
  | [] => []

/-- The element of a single character. -/
def Element.ofChar (c : Char) : Element :=
  if c = '*' then .star else if c = '?' then .one else .exactly c

/-- The elements of a pattern whose double stars are spelled out. The number is at least the length
of the pattern. -/
def elementsFrom : Nat → List Char → List Element
  | 0, _ => []
  | _ + 1, [] => []
  | fuel + 1, c :: rest =>
    if spelledStar.isPrefixOf (c :: rest) then
      .doubleStar :: elementsFrom fuel ((c :: rest).drop spelledStar.length)
    else .ofChar c :: elementsFrom fuel rest

/-- The pattern that a text describes. -/
def ofText (s : String) : Glob :=
  let spelled := spellStars s.toList
  { elements := elementsFrom spelled.length spelled
    closed := ['/', '*'].isSuffixOf s.toList }

/-! ## Matching -/

/-- Whether some number of allowed characters can be taken away so that the rest passes. -/
def span (allowed : Char → Bool) (passes : List Char → Bool) : List Char → Bool
  | [] => passes []
  | c :: rest => passes (c :: rest) || (allowed c && span allowed passes rest)

/-- Whether what is left of a path may be left over. A closed pattern leaves nothing but a line
break at the very end. -/
def mayEnd (closed : Bool) (rest : List Char) : Bool :=
  !closed || rest.isEmpty || rest == ['\n']

/-- Whether elements match the start of a path. -/
def acceptsFrom (closed : Bool) : List Element → List Char → Bool
  | [], path => mayEnd closed path
  | .exactly c :: es, path => match path with
    | d :: rest => Text.sameLetter c d && acceptsFrom closed es rest
    | [] => false
  | .one :: es, path => match path with
    | d :: rest => d != '\n' && acceptsFrom closed es rest
    | [] => false
  | .star :: es, path => span (· != '/') (acceptsFrom closed es) path
  | .doubleStar :: es, path => span (· != '\n') (acceptsFrom closed es) path

/-- Whether a pattern matches a path. -/
def accepts (g : Glob) (path : String) : Bool := acceptsFrom g.closed g.elements path.toList

end Glob

end SymbolSieve
