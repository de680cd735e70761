import SymbolSieve.Text.CaseTable

/-!
# Lower case, and letters that differ only in case

Search and vocabulary words are compared in lower case; path patterns compare single characters.
The two are different relations: lower-casing a text may lengthen it and looks at neighbours, while
a path pattern pairs off characters one by one.

## What is here

* `lowerChar`: the lower-case form of a single character.
* `lower`: the lower-case form of a text. The letter İ becomes an `i` and a combining dot, and a
  capital sigma that ends a word becomes a final sigma.
* `sameLetter`: equality of single characters up to case, with the pairs that have one upper-case
  form (`i` and dotless `ı`, `s` and long `ſ`, `σ` and `ς`, and so on).
-/

set_option autoImplicit false

namespace SymbolSieve.Text

/-! ## Single characters -/

/-- Where a code point moves to, given the runs in increasing order. -/
def lowerFromRuns (n : Nat) : List CaseRun → Nat
  | [] => n
  | run :: rest =>
    if n < run.first then n
    else if n ≤ run.last then
      if (n - run.first) % run.step = 0 then (n + run.shift).toNat else n
    else lowerFromRuns n rest

/-- The lower-case form of a single character. -/
def lowerChar (c : Char) : Char :=
  if c.toNat < 128 then c.toLower else Char.ofNat (lowerFromRuns c.toNat lowerRuns)

/-- Lower-case characters with the same upper-case form as another one, which stands second. -/
def caseTwins : List (Char × Char) :=
  [('\u0131', 'i'), ('\u017F', 's'), ('\u00B5', '\u03BC'), ('\u0345', '\u03B9'),
    ('\u1FBE', '\u03B9'), ('\u1FD3', '\u0390'), ('\u1FE3', '\u03B0'), ('\u03D0', '\u03B2'),
    ('\u03F5', '\u03B5'), ('\u03D1', '\u03B8'), ('\u03F0', '\u03BA'), ('\u03D6', '\u03C0'),
    ('\u03F1', '\u03C1'), ('\u03C2', '\u03C3'), ('\u03D5', '\u03C6'), ('\u1E9B', '\u1E61'),
    ('\u1C80', '\u0432'), ('\u1C81', '\u0434'), ('\u1C82', '\u043E'), ('\u1C83', '\u0441'),
    ('\u1C84', '\u0442'), ('\u1C85', '\u0442'), ('\u1C86', '\u044A'), ('\u1C87', '\u0463'),
    ('\u1C88', '\uA64B'), ('\uFB05', '\uFB06')]

/-- The character that stands for all those that differ from `c` in case only. -/
def foldChar (c : Char) : Char :=
  let l := lowerChar c
  (caseTwins.lookup l).getD l

/-- Equality of single characters up to case. -/
def sameLetter (c d : Char) : Bool := foldChar c == foldChar d

theorem sameLetter_refl (c : Char) : sameLetter c c = true := by simp [sameLetter]

theorem sameLetter_comm (c d : Char) : sameLetter c d = sameLetter d c := by
  rw [sameLetter, sameLetter, BEq.comm]

/-! ## Texts -/

/-- A character that the search for the end of a word steps over. -/
def isCaseIgnorable (c : Char) : Bool := inRanges c.toNat caseIgnorable

/-- A letter that has a case. -/
def isCased (c : Char) : Bool := inRanges c.toNat cased

/-- Whether a letter follows, characters that do not end a word being stepped over. -/
def startsWithLetter (s : List Char) : Bool :=
  match s.dropWhile isCaseIgnorable with
  | [] => false
  | c :: _ => isCased c

/-- Lower case of the rest of a text; `inWord` says whether a letter precedes it. -/
def lowerFrom (inWord : Bool) : List Char → List Char
  | [] => []
  | c :: rest =>
    let here :=
      if c = '\u03A3' then [if inWord && !startsWithLetter rest then '\u03C2' else '\u03C3']
      else if c = '\u0130' then ['i', '\u0307']
      else [lowerChar c]
    here ++ lowerFrom (if isCaseIgnorable c then inWord else isCased c) rest

/-- The lower-case form of a text. -/
def lower (s : String) : String := String.ofList (lowerFrom false s.toList)

end SymbolSieve.Text
