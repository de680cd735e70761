/-!
# Parts between separators

A text is cut at every occurrence of a character. There is always one part more than there are
occurrences, so the parts with the separator between them are the text again.

## What is here

* `splitAt`: the parts of a list of characters.
* `split`: the parts of a text.
-/

set_option autoImplicit false

namespace SymbolSieve.Text

/-- The parts of a list of characters between the occurrences of a separator. The first argument
holds the part that is being read, backwards. -/
def splitFrom (sep : Char) (part : List Char) : List Char → List (List Char)
  | [] => [part.reverse]
  | c :: rest => if c = sep then part.reverse :: splitFrom sep [] rest
    else splitFrom sep (c :: part) rest

/-- The parts of a list of characters between the occurrences of a separator. -/
def splitAt (sep : Char) (s : List Char) : List (List Char) := splitFrom sep [] s

/-- The parts of a text between the occurrences of a separator. -/
def split (sep : Char) (s : String) : List String := (splitAt sep s.toList).map String.ofList

theorem splitFrom_ne_nil (sep : Char) (part s : List Char) : splitFrom sep part s ≠ [] := by
  induction s generalizing part with
  | nil => simp [splitFrom]
  | cons c rest ih =>
    simp only [splitFrom]
    split
    · exact List.cons_ne_nil _ _
    · exact ih _

theorem intercalate_splitFrom (sep : Char) (part s : List Char) :
    List.intercalate [sep] (splitFrom sep part s) = part.reverse ++ s := by
  induction s generalizing part with
  | nil => simp [splitFrom]
  | cons c rest ih =>
    simp only [splitFrom]
    split
    next h =>
      obtain ⟨p, ps, hp⟩ := List.exists_cons_of_ne_nil (splitFrom_ne_nil sep [] rest)
      have step := ih []
      rw [hp] at step ⊢
      simpa [h, List.intercalate, List.intersperse] using step
    next => simpa using ih (c :: part)

/-- The parts with the separator between them are the text again. -/
theorem intercalate_splitAt (sep : Char) (s : List Char) :
    List.intercalate [sep] (splitAt sep s) = s := by
  simpa [splitAt] using intercalate_splitFrom sep [] s

end SymbolSieve.Text
