import SymbolSieve.Text.Blank

/-!
# Words and the texts that they make up

A text is cut into words at white space, and words are put together with one space between
neighbours.  The two are inverse to each other as far as that is possible: joining forgets nothing,
and cutting forgets only which white space there was.

## What is here

* `IsWord`: what a part of a text between white space is, and `isWord_of_mem_words`.
* `words_joined`: words that are put together are found again.
* `IsJoined`: the texts that are words put together; `joined_cons_isJoined` says that such a text
  can stand for its words among others.
-/

set_option autoImplicit false

namespace SymbolSieve.Text

/-- A text with at least one character and without white space. -/
def IsWord (w : String) : Prop := w ≠ "" ∧ ∀ c ∈ w.toList, isBlank c = false

/-! ## Cutting -/

/-- Characters that are not white space go into the word that is being read. -/
theorem wordsFrom_append {w : List Char} (hw : ∀ c ∈ w, isBlank c = false) (word s : List Char) :
    wordsFrom word (w ++ s) = wordsFrom (w.reverse ++ word) s := by
  induction w generalizing word with
  | nil => rfl
  | cons c w ih =>
    have hc : isBlank c = false := hw c (by simp)
    rw [List.cons_append, wordsFrom, if_neg (by simp [hc]), ih fun d hd => hw d (by simp [hd])]
    simp

/-- What is found by cutting is nonempty and has no white space in it, provided that the unfinished
word has none. -/
theorem mem_wordsFrom {word s w : List Char} (hword : ∀ c ∈ word, isBlank c = false)
    (h : w ∈ wordsFrom word s) : w ≠ [] ∧ ∀ c ∈ w, isBlank c = false := by
  -- The word that is being read is given out, or grows by a character that is no white space.
  have unfinished : word.isEmpty = false →
      word.reverse ≠ [] ∧ ∀ c ∈ word.reverse, isBlank c = false :=
    fun hne => ⟨by simpa using hne, fun c hc => hword c (by simpa using hc)⟩
  fun_induction wordsFrom word s with
  | case1 => simp at h
  | case2 word hne =>
    obtain rfl : w = word.reverse := by simpa using h
    exact unfinished (by simpa using hne)
  | case3 word c rest hc _ ih => exact ih (by simp) h (by simp)
  | case4 word c rest hc hne ih =>
    rcases List.mem_cons.1 h with rfl | h
    · exact unfinished (by simpa using hne)
    · exact ih (by simp) h (by simp)
  | case5 word c rest hc ih =>
    have hgrown : ∀ d ∈ c :: word, isBlank d = false := by
      intro d hd
      rcases List.mem_cons.1 hd with rfl | hd
      · simpa using hc
      · exact hword d hd
    exact ih hgrown h fun _ => ⟨by simp, fun d hd => hgrown d (by simpa [or_comm] using hd)⟩

/-- The words of a text are words. -/
theorem isWord_of_mem_words {s w : String} (h : w ∈ words s) : IsWord w := by
  obtain ⟨cs, hcs, rfl⟩ := List.mem_map.1 h
  obtain ⟨hne, hblank⟩ := mem_wordsFrom (by simp) hcs
  exact ⟨by simpa [← String.toList_inj] using hne, by simpa using hblank⟩

/-! ## Joining -/

@[simp] theorem words_empty : words "" = [] := rfl

/-- A word by itself is the only word of its text. -/
theorem words_of_isWord {w : String} (h : IsWord w) : words w = [w] := by
  have hread := wordsFrom_append h.2 [] []
  have hne : w.toList ≠ [] := by simpa using h.1
  rw [List.append_nil] at hread
  simp [words, hread, wordsFrom, hne]

/-- A word with a space behind it is the first word of its text. -/
theorem words_append_space {w : String} (h : IsWord w) (s : String) :
    words (w ++ " " ++ s) = w :: words s := by
  have hne : w.toList ≠ [] := by simpa using h.1
  have hblank : isBlank ' ' = true := rfl
  have hread := wordsFrom_append h.2 [] (' ' :: s.toList)
  have hchars : (w ++ " " ++ s).toList = w.toList ++ ' ' :: s.toList := by simp
  rw [words, hchars, hread, wordsFrom, if_pos hblank, if_neg (by simpa using hne)]
  simp [words]

/-- **Words that are put together are found again.** -/
theorem words_joined {ws : List String} (h : ∀ w ∈ ws, IsWord w) : words (joined ws) = ws := by
  induction ws with
  | nil => rfl
  | cons w ws ih =>
    have hw : IsWord w := h w (by simp)
    have hws : words (joined ws) = ws := ih fun v hv => h v (by simp [hv])
    cases ws with
    | nil => simpa [joined] using words_of_isWord hw
    | cons v ws =>
      have hsplit : joined (w :: v :: ws) = w ++ " " ++ joined (v :: ws) := by simp [joined]
      rw [hsplit, words_append_space hw, hws]

/-! ## Texts in normal form -/

/-- A text that is its words with one space between neighbours. -/
def IsJoined (t : String) : Prop := t = joined (words t)

theorem isJoined_joined {ws : List String} (h : ∀ w ∈ ws, IsWord w) : IsJoined (joined ws) := by
  rw [IsJoined, words_joined h]

/-- A nonempty text in normal form among some words says the same as its own words there. -/
theorem joined_cons_isJoined {t : String} (ht : IsJoined t) (hne : t ≠ "") (ws : List String) :
    joined (t :: ws) = joined (words t ++ ws) := by
  have hwords : words t ≠ [] := by
    intro hnil
    rw [IsJoined, hnil] at ht
    exact hne ht
  cases ws with
  | nil => simpa [IsJoined, joined] using ht
  | cons w ws =>
    have happend : joined (words t ++ w :: ws) = joined (words t) ++ " " ++ joined (w :: ws) :=
      String.intercalate_append_of_ne_nil hwords (by simp)
    rw [happend, ← ht]
    simp [joined]

end SymbolSieve.Text
