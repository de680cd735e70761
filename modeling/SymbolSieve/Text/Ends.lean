/-!
# Ends of lines and of texts

Lines end with a line feed, a carriage return or both, and what is read from a file has only line
feeds. Where texts are handed over as bytes, they end with a zero character, so that there can be
none in them.

## What is here

* `withLineFeeds`: a text as it is read from a file.
* `hasZero`: whether a text has a zero character in it.
-/

set_option autoImplicit false

namespace SymbolSieve.Text

/-- Some characters with a line feed for every end of a line. -/
def withLineFeeds : List Char → List Char
  | '\r' :: '\n' :: rest => '\n' :: withLineFeeds rest
  | '\r' :: rest => '\n' :: withLineFeeds rest
  | c :: rest => c :: withLineFeeds rest
  | [] => []

/-- Only line feeds end the lines of a text that was read from a file. -/
theorem not_mem_withLineFeeds (s : List Char) : '\r' ∉ withLineFeeds s := by
  fun_induction withLineFeeds s <;> simp_all [eq_comm]

/-- A text as it is read from a file. -/
def readBack (s : String) : String := String.ofList (withLineFeeds s.toList)

/-- Whether a text has a zero character in it. -/
def hasZero (s : String) : Bool := s.toList.contains (Char.ofNat 0)

end SymbolSieve.Text
