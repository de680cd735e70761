import SymbolSieve.Proofs.Glob.Pieces

/-!
# Open and closed patterns

Whether a pattern has to match a whole path is decided by its last two characters, while the matcher
works on elements in which these are no longer seen, and allows a line break to be left over at the
end of a path.  What comes out is simple all the same.  A pattern that does not end in `/*` matches
every path that goes on after a path that it matches.  One that ends in `/*` looks at the last slash
of a path: what stands before it has to be filled by the rest of the pattern, whatever that rest
ends in, and what stands behind it does not matter.

## What is here

* `Fills`: a pattern takes a text as a whole.
* `acceptsFrom_append`: elements of an open pattern match more than they need.
* `covers_slash_star_iff`: a closed pattern and the last slash of a path.
* `EndsAtSlash`, `endsAtSlash_append`: what stands before the last slash of a path stays when text
  without a slash is added.
* `answers_of_ending`: what the ending of a pattern says about its answers.
-/

set_option autoImplicit false

namespace SymbolSieve.Glob

open Text

/-- A pattern takes a text as a whole. -/
def Fills (pattern text : String) : Prop := Splits (ofText pattern).elements text.toList

/-! ## Open patterns -/

/-- Elements match a longer path, too, if nothing has to end with them. -/
theorem acceptsFrom_append {es : List Element} {path : List Char}
    (h : acceptsFrom false es path = true) (more : List Char) :
    acceptsFrom false es (path ++ more) = true := by
  obtain ⟨taken, rest, rfl, hsplits, -⟩ := acceptsFrom_iff.1 h
  exact acceptsFrom_iff.2 ⟨taken, rest ++ more, List.append_assoc _ _ _, hsplits, rfl⟩

/-! ## Closed patterns -/

/-- A text of a given kind ends where the last slash of a path stands. -/
def EndsAtSlash (p : List Char → Prop) (path : List Char) : Prop :=
  ∃ front back, path = front ++ '/' :: back ∧ '/' ∉ back ∧ p front

/-- **A closed pattern covers a path** if the rest of the pattern takes all that stands before the
last slash. -/
theorem covers_slash_star_iff {r path : String} :
    Covers (r ++ "/*") path ↔ EndsAtSlash (Splits (elementsOf r.toList)) path.toList := by
  have hchars : (r ++ "/*").toList = r.toList ++ ['/', '*'] := String.toList_append
  have helements : elementsOf (r ++ "/*").toList =
      elementsOf r.toList ++ [.exactly '/', .star] := by
    rw [hchars, elementsOf_slash_star]
  rw [Covers, helements, hchars]
  constructor
  · rintro ⟨taken, -, hsplits, hwhole⟩
    rw [hwhole (List.suffix_append _ _)] at hsplits
    obtain ⟨front, rest, hpath, hfront, hrest⟩ := splits_append.1 hsplits
    obtain ⟨back, rfl, hback⟩ := splits_slash_star.1 hrest
    exact ⟨front, back, hpath, hback, hfront⟩
  · rintro ⟨front, back, hpath, hback, hfront⟩
    refine ⟨path.toList, List.prefix_rfl, ?_, fun _ => rfl⟩
    rw [hpath]
    exact splits_append.2 ⟨front, _, rfl, hfront, splits_slash_star.2 ⟨back, rfl, hback⟩⟩

/-- Text without a slash at the end of a path does not change what stands before the last slash. -/
theorem endsAtSlash_append {p : List Char → Prop} {path more : List Char} (h : '/' ∉ more) :
    EndsAtSlash p (path ++ more) ↔ EndsAtSlash p path := by
  constructor
  · rintro ⟨front, back, heq, hback, hfront⟩
    rcases List.append_eq_append_iff.1 heq with ⟨tail, rfl, hmore⟩ | ⟨tail, rfl, htail⟩
    · exact (h (by simp [hmore])).elim
    · cases tail with
      | nil =>
        obtain rfl : '/' :: back = more := htail
        exact (h List.mem_cons_self).elim
      | cons c tail =>
        obtain ⟨rfl, rfl⟩ := List.cons.inj htail
        exact ⟨front, tail, rfl, fun hslash => hback (by simp [hslash]), hfront⟩
  · rintro ⟨front, back, rfl, hback, hfront⟩
    exact ⟨front, back ++ more, List.append_assoc _ _ _, by simp [hback, h], hfront⟩

/-! ## What the ending of a pattern says -/

theorem endsAtSlash_fills_iff {r path : String} (hr : '\x00' ∉ r.toList) :
    EndsAtSlash (Splits (elementsOf r.toList)) path.toList ↔
      ∃ front back, path = front ++ "/" ++ back ∧ '/' ∉ back.toList ∧ Fills r front := by
  simp only [Fills, elements_ofText hr]
  constructor
  · rintro ⟨front, back, hpath, hback, hfront⟩
    have hpath' : path = String.ofList front ++ "/" ++ String.ofList back := by
      rw [← String.toList_inj]
      simpa using hpath
    exact ⟨_, _, hpath', by simpa using hback, by simpa using hfront⟩
  · rintro ⟨front, back, rfl, hback, hfront⟩
    exact ⟨front.toList, back.toList, by simp, hback, hfront⟩

/-- **A pattern that does not end in `/*` matches all continuations of what it matches.  One that
does matches a path exactly if it has a slash and the rest of the pattern fills what stands before
the last one**, so that text without a slash can be added to the path and changes nothing. -/
theorem answers_of_ending {pattern : String} (h : '\x00' ∉ pattern.toList) :
    (¬ ['/', '*'] <:+ pattern.toList →
      ∀ path more, Matches pattern path → Matches pattern (path ++ more)) ∧
    ∀ r, pattern = r ++ "/*" → ∀ path,
      Decides pattern path
        (∃ front back, path = front ++ "/" ++ back ∧ '/' ∉ back.toList ∧ Fills r front) ∧
      ∀ more : String, '/' ∉ more.toList →
        (Matches pattern (path ++ more) ↔ Matches pattern path) := by
  constructor
  · intro hopen path more hmatches
    have hnot : (ofText pattern).closed = false := by rwa [← Bool.not_eq_true, closed_iff]
    rw [matches_iff, accepts, hnot] at hmatches ⊢
    rw [String.toList_append]
    exact acceptsFrom_append hmatches more.toList
  · rintro r rfl path
    have hr : '\x00' ∉ r.toList := fun hzero => h (by simp [hzero])
    have hanswer : ∀ path, Matches (r ++ "/*") path ↔
        EndsAtSlash (Splits (elementsOf r.toList)) path.toList := fun path => by
      rw [matches_iff_covers h, covers_slash_star_iff]
    refine ⟨?_, fun more hmore => ?_⟩
    · rw [decides_iff, ← matches_iff, hanswer, endsAtSlash_fills_iff hr]
    · rw [hanswer, hanswer, String.toList_append, endsAtSlash_append hmore]

theorem answers_of_ending_sources :
    ('\x00' ∉ "SRC/*.g".toList ∧ ¬ ['/', '*'] <:+ "SRC/*.g".toList ∧
      Matches "SRC/*.g" "src/a.go" ∧ Matches "SRC/*.g" ("src/a.go" ++ "/b\n")) ∧
    ('\x00' ∉ "**?*/*".toList ∧ "**?*/*" = "**?*" ++ "/*" ∧
      Decides "**?*/*" "a/b/\n" (∃ front back, "a/b/\n" = front ++ "/" ++ back ∧
        '/' ∉ back.toList ∧ Fills "**?*" front) ∧
      '/' ∉ ".go".toList ∧ (Matches "**?*/*" ("a/b/\n" ++ ".go") ↔ Matches "**?*/*" "a/b/\n")) := by
  have hopen : ¬ ['/', '*'] <:+ "SRC/*.g".toList := by decide
  have hmatches : Matches "SRC/*.g" "src/a.go" := matches_iff.2 (by decide)
  have hzero : '\x00' ∉ "**?*/*".toList := by decide
  have hclosed := (answers_of_ending hzero).2 "**?*" rfl "a/b/\n"
  exact ⟨⟨by decide, hopen, hmatches,
      (answers_of_ending (by decide)).1 hopen "src/a.go" "/b\n" hmatches⟩,
    hzero, rfl, hclosed.1, by decide, hclosed.2 ".go" (by decide)⟩

end SymbolSieve.Glob
