import SymbolSieve.Text.Ranges

/-!
# White space and words

Queries are read word by word. White space is the Unicode notion, together with the four
information separators U+001C to U+001F; the zero-width space U+200B, the Mongolian vowel separator
U+180E and the byte order mark U+FEFF are not white space.

## What is here

* `isBlank`: white space.
* `words`: the maximal runs of characters that are not white space, in order.
* `trim`: a text without white space at its ends.
* `joined`: words with one space between neighbours.
-/

set_option autoImplicit false

namespace SymbolSieve.Text

/-- The code points that count as white space. -/
def blanks : List (Nat × Nat) :=
  [(0x0009, 0x000D), (0x001C, 0x0020), (0x0085, 0x0085), (0x00A0, 0x00A0), (0x1680, 0x1680),
    (0x2000, 0x200A), (0x2028, 0x2029), (0x202F, 0x202F), (0x205F, 0x205F), (0x3000, 0x3000)]

/-- White space. -/
def isBlank (c : Char) : Bool := inRanges c.toNat blanks

/-- Every ASCII white-space character that core knows is a blank. -/
theorem isBlank_of_isWhitespace {c : Char} (h : c.isWhitespace = true) : isBlank c = true := by
  have : c = ' ' ∨ c = '\t' ∨ c = '\r' ∨ c = '\n' := by
    simpa [Char.isWhitespace, or_assoc] using h
  rcases this with rfl | rfl | rfl | rfl <;> rfl

/-! ## Words -/

/-- The words of a text whose last, unfinished word is `word`, read backwards. -/
def wordsFrom (word : List Char) : List Char → List (List Char)
  | [] => if word.isEmpty then [] else [word.reverse]
  | c :: rest =>
    if isBlank c then
      if word.isEmpty then wordsFrom [] rest else word.reverse :: wordsFrom [] rest
    else wordsFrom (c :: word) rest

/-- The maximal runs of characters that are not white space. -/
def words (s : String) : List String :=
  (wordsFrom [] s.toList).map String.ofList

/-- Words with one space between neighbours. -/
def joined (parts : List String) : String := String.intercalate " " parts

/-! ## Ends of a text -/

/-- A text without the characters of a class at its two ends. -/
def trimBy (p : Char → Bool) (s : List Char) : List Char :=
  ((s.dropWhile p).reverse.dropWhile p).reverse

/-- A text without white space at its ends. -/
def trim (s : String) : String := String.ofList (trimBy isBlank s.toList)

end SymbolSieve.Text
