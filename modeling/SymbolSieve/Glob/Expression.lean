import SymbolSieve.Glob
import SymbolSieve.Text.Replaced
import SymbolSieve.Value.Basic

/-!
# Expressions of patterns

A pattern is matched by way of an expression. That is a text in which most characters stand for
themselves, and some signs do not, unless there is a backslash in front of them:

| in an expression | matches |
| --- | --- |
| `.*` | any characters but line breaks |
| `[^/]*` | any characters but `/` |
| `.` | one character other than a line break |
| `$` at the end | nothing, at the end of a path or before a line break that ends it |
| a backslash and a sign | that sign |
| a character that is no sign | that character, in either case |

A pattern is put into this form kind by kind: first its signs are escaped, then its stars are
exchanged, double stars being out of the way meanwhile, then its question marks.

## What is here

* `expression`: the expression of a pattern.
* `ofExpression?`: the pattern that an expression stands for, if it is one of the above.
* `compiled`: the pattern that a text describes, by way of its expression.
-/

set_option autoImplicit false

namespace SymbolSieve.Glob

/-! ## Writing expressions -/

/-- The signs of expressions that mean nothing in patterns. -/
def foreignSigns : List Char := ".+^$()|[]\\".toList ++ ['\x7b', '\x7d']

/-- A character of a pattern, with a backslash in front of it if it would be a sign. -/
def escaped (c : Char) : List Char := if foreignSigns.contains c then ['\\', c] else [c]

/-- Whether a pattern has to match the whole path. -/
def endsClosed (pattern : List Char) : Bool := ['/', '*'].isSuffixOf pattern

/-- The expression of a pattern. -/
def expression (pattern : List Char) : List Char :=
  let safe := pattern.flatMap escaped
  let spelled := Text.replaced ['*', '*'] spelledStar safe
  let inSegments := Text.replaced ['*'] "[^/]*".toList spelled
  let starred := Text.replaced spelledStar ".*".toList inSegments
  let drawn := Text.replaced ['?'] ['.'] starred
  if endsClosed pattern then drawn ++ ['$'] else drawn

/-! ## Reading expressions -/

/-- Whether a character is a sign in expressions. -/
def isSign (c : Char) : Bool := (['*', '?'] ++ foreignSigns).contains c

/-- A pattern with one more element in front. -/
def cons (e : Element) (g : Glob) : Glob := { g with elements := e :: g.elements }

/-- The pattern that an expression stands for. -/
def ofExpression? : List Char → Option Glob
  | [] => some ⟨[], false⟩
  | ['$'] => some ⟨[], true⟩
  | '.' :: '*' :: rest => (ofExpression? rest).map (cons .doubleStar)
  | '.' :: rest => (ofExpression? rest).map (cons .one)
  | '[' :: '^' :: '/' :: ']' :: '*' :: rest => (ofExpression? rest).map (cons .star)
  | '\\' :: c :: rest => if isSign c then (ofExpression? rest).map (cons (.exactly c)) else none
  | c :: rest => if isSign c then none else (ofExpression? rest).map (cons (.exactly c))

/-- The pattern that a text describes, by way of its expression. -/
def compiled (s : String) : Except ValueFault Glob :=
  match ofExpression? (expression s.toList) with
  | some g => .ok g
  | none => .error .malformed

end SymbolSieve.Glob
