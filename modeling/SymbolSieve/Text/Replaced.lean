/-!
# Replacing parts of a text

Every occurrence of one text in another is replaced by a third one. Occurrences are looked for from
the left, and the search goes on behind each of them, so occurrences that overlap are not all found,
and what was put in is not looked at again.

## What is here

* `replaced`: a text with every occurrence of another one replaced.
* `replaced_append_self`, `replaced_cons`, `replaced_append_of_not_mem`: what is done where an
  occurrence begins, where none begins, and where none can begin.
* `replaced_flatMap`: one character is replaced piece by piece.
-/

set_option autoImplicit false

namespace SymbolSieve.Text

/-- The rest of a text with every occurrence of `old` replaced. The number counts the characters
that still belong to the last occurrence. -/
def replacedFrom (old new : List Char) : Nat → List Char → List Char
  | _, [] => []
  | more + 1, _ :: rest => replacedFrom old new more rest
  | 0, c :: rest =>
    if old.isPrefixOf (c :: rest) then new ++ replacedFrom old new (old.length - 1) rest
    else c :: replacedFrom old new 0 rest

/-- A text with every occurrence of `old`, which has at least one character, replaced. -/
def replaced (old new s : List Char) : List Char := replacedFrom old new 0 s

theorem replacedFrom_length (old new skipped s : List Char) :
    replacedFrom old new skipped.length (skipped ++ s) = replaced old new s := by
  induction skipped with
  | nil => rfl
  | cons c skipped ih => exact ih

/-- An occurrence is replaced, and the search goes on behind it. -/
theorem replaced_append_self {old : List Char} (hne : old ≠ []) (new s : List Char) :
    replaced old new (old ++ s) = new ++ replaced old new s := by
  obtain ⟨c, tail, rfl⟩ := List.exists_cons_of_ne_nil hne
  have hfound : (c :: tail).isPrefixOf (c :: (tail ++ s)) = true :=
    List.isPrefixOf_iff_prefix.2 (List.prefix_append (c :: tail) s)
  rw [replaced, List.cons_append, replacedFrom, if_pos hfound, List.length_cons,
    Nat.add_sub_cancel, replacedFrom_length]

/-- A character at which no occurrence begins stays. -/
theorem replaced_cons {old : List Char} (new : List Char) {c : Char} {s : List Char}
    (h : ¬ old <+: c :: s) : replaced old new (c :: s) = c :: replaced old new s := by
  rw [replaced, replacedFrom, if_neg (by simpa using h)]
  rfl

/-- No occurrence begins in a text without the first character of what is looked for. -/
theorem replaced_append_of_not_mem {c : Char} {l : List Char} (h : c ∉ l)
    (tail new s : List Char) :
    replaced (c :: tail) new (l ++ s) = l ++ replaced (c :: tail) new s := by
  induction l with
  | nil => rfl
  | cons d l ih =>
    have hd : ¬ c :: tail <+: d :: (l ++ s) := by
      rw [List.cons_prefix_cons]
      exact fun hhead => h (by simp [hhead.1])
    rw [List.cons_append, replaced_cons new hd, ih fun hmem => h (by simp [hmem])]
    rfl

/-- In a text that is made of pieces, of which some are one character and the others do not have it,
the replaced pieces make up the text in which that character is replaced. -/
theorem replaced_flatMap {α : Type} {c : Char} {new : List Char} {f g : α → List Char} {s : List α}
    (h : ∀ a ∈ s, f a = [c] ∧ g a = new ∨ c ∉ f a ∧ g a = f a) :
    replaced [c] new (s.flatMap f) = s.flatMap g := by
  induction s with
  | nil => rfl
  | cons a s ih =>
    have hrest := ih fun b hb => h b (by simp [hb])
    rw [List.flatMap_cons, List.flatMap_cons, ← hrest]
    rcases h a (by simp) with ⟨hf, hg⟩ | ⟨hf, hg⟩
    · rw [hf, hg]
      exact replaced_append_self (List.cons_ne_nil c []) new _
    · rw [hg]
      exact replaced_append_of_not_mem hf [] new _

end SymbolSieve.Text
