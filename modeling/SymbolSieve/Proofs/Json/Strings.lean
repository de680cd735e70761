import SymbolSieve.Json.Writer
import SymbolSieve.Proofs.Outcome
import SymbolSieve.Proofs.Text.Hexadecimal

/-!
# Written strings are read again

Strings are written in ASCII.  A character outside it becomes one escape or two, and the reader
joins the two halves of a pair again, so it has to be sure that the halves which it joins belong
together.

## What is here

* `PiecesOf`: the pieces that a written character is read as; `exists_piecesOf`.
* `readString_escaped`: a written string is read as itself.
-/

set_option autoImplicit false

namespace SymbolSieve.Json

open Text

/-- Some pieces are those of a character: the character is written so that they are read, and they
stand for it whatever follows. -/
def PiecesOf (c : Char) (ps : List Piece) : Prop :=
  (∀ opened rest, rest ≠ [] → readPieces opened (escapedChar c ++ rest) =
    (readPieces opened rest).map fun r => (ps ++ r.1, r.2)) ∧
    ∀ qs, characters (ps ++ qs) = c :: characters qs

/-! ## Escapes -/

theorem readPieces_unitEscape {n : Nat} (hn : n < 0x10000) (opened : List Char) {rest : List Char}
    (hrest : rest ≠ []) : readPieces opened (unitEscape n ++ rest) =
      prepend (.unit n) (readPieces opened rest) := by
  obtain ⟨a, b, c, d, hdigits, hunit⟩ := hexText_four hn
  have hempty : rest.isEmpty = false := by simpa using hrest
  simp [unitEscape, hdigits, readPieces, hunit, hempty]

theorem piecesOf_unit {c : Char} (hlow : c.toNat < 0x10000)
    (hescaped : escapedChar c = unitEscape c.toNat) : PiecesOf c [.unit c.toNat] := by
  refine ⟨fun opened rest hrest => ?_, fun qs => ?_⟩
  · rw [hescaped, readPieces_unitEscape hlow opened hrest]
    rfl
  · -- No character is half of a pair, so nothing that follows is joined to it.
    have hvalid := c.valid
    have hhigh : isHigh c.toNat = false := by
      simp only [isHigh, Bool.and_eq_false_iff, decide_eq_false_iff_not]
      rcases hvalid with h | h <;> simp only [Char.toNat] <;> omega
    have hlow : isLow c.toNat = false := by
      simp only [isLow, Bool.and_eq_false_iff, decide_eq_false_iff_not]
      rcases hvalid with h | h <;> simp only [Char.toNat] <;> omega
    have hunit : ofUnit c.toNat = c := by simp [ofUnit, hhigh, hlow]
    cases qs with
    | nil => simp [characters, hunit]
    | cons q qs => cases q <;> simp [characters, hhigh, hunit]

theorem piecesOf_pair {c : Char} {high low : Nat} (hhigh : 0xD800 ≤ high ∧ high < 0xDC00)
    (hlow : 0xDC00 ≤ low ∧ low < 0xE000)
    (hc : 0x10000 + (high - 0xD800) * 0x400 + (low - 0xDC00) = c.toNat)
    (hescaped : escapedChar c = unitEscape high ++ unitEscape low) :
    PiecesOf c [.unit high, .unit low] := by
  refine ⟨fun opened rest hrest => ?_, fun qs => ?_⟩
  · rw [hescaped, List.append_assoc,
      readPieces_unitEscape (by omega) opened (by simp [unitEscape]),
      readPieces_unitEscape (by omega) opened hrest]
    cases readPieces opened rest <;> rfl
  · have hfirst : isHigh high = true := by
      simpa only [isHigh, Bool.and_eq_true, decide_eq_true_eq] using hhigh
    have hsecond : isLow low = true := by
      simpa only [isLow, Bool.and_eq_true, decide_eq_true_eq] using hlow
    have hpair : ofPair high low = c := by rw [ofPair, hc, Char.ofNat_toNat]
    simp [characters, hfirst, hsecond, hpair]

theorem piecesOf_letter {c l : Char} (hl : l ≠ 'u') (hescape : escape? l = some c)
    (hescaped : escapedChar c = ['\\', l]) : PiecesOf c [.char c] := by
  refine ⟨fun opened rest hrest => ?_, fun qs => rfl⟩
  rw [hescaped, List.cons_append, List.singleton_append, readPieces.eq_def]
  split
  case h_6 hone hmore heq =>
    cases heq
    exact (hmore _ _ rfl rfl).elim
  all_goals simp_all [prepend]

theorem piecesOf_self {c : Char} (hquote : c ≠ doubleQuote) (hbackslash : c ≠ '\\')
    (hprintable : 0x20 ≤ c.toNat) (hescaped : escapedChar c = [c]) : PiecesOf c [.char c] := by
  refine ⟨fun opened rest hrest => ?_, fun qs => rfl⟩
  have hcontrol : ¬ c.toNat < 0x20 := by omega
  rw [hescaped, List.singleton_append, readPieces.eq_def]
  split
  case h_6 heq =>
    cases heq
    rw [if_neg hquote, if_neg hcontrol]
    rfl
  all_goals simp_all

/-- **Every character has pieces.** -/
theorem exists_piecesOf (c : Char) : ∃ ps, PiecesOf c ps := by
  have hletter : ∀ l, l ≠ 'u' → escape? l = some c → escapedChar c = ['\\', l] →
      ∃ ps, PiecesOf c ps := fun l hl hescape hescaped => ⟨_, piecesOf_letter hl hescape hescaped⟩
  by_cases hquote : c = doubleQuote
  · subst hquote
    exact hletter doubleQuote (by decide) (by decide) (by decide)
  by_cases hbackslash : c = '\\'
  · subst hbackslash
    exact hletter '\\' (by decide) (by decide) (by decide)
  by_cases hn : c = '\n'
  · subst hn
    exact hletter 'n' (by decide) (by decide) (by decide)
  by_cases hr : c = '\r'
  · subst hr
    exact hletter 'r' (by decide) (by decide) (by decide)
  by_cases ht : c = '\t'
  · subst ht
    exact hletter 't' (by decide) (by decide) (by decide)
  by_cases hf : c.toNat = 0x0C
  · obtain rfl : c = '\x0c' := Char.ext (UInt32.toNat_inj.1 hf)
    exact hletter 'f' (by decide) (by decide) (by decide)
  by_cases hb : c.toNat = 0x08
  · obtain rfl : c = '\x08' := Char.ext (UInt32.toNat_inj.1 hb)
    exact hletter 'b' (by decide) (by decide) (by decide)
  have hescaped : escapedChar c = if 0x20 ≤ c.toNat && c.toNat < 0x7F then [c]
      else if c.toNat < 0x10000 then unitEscape c.toNat
      else unitEscape (0xD800 + (c.toNat - 0x10000) / 0x400) ++
        unitEscape (0xDC00 + (c.toNat - 0x10000) % 0x400) := by
    rw [escapedChar, if_neg hquote, if_neg hbackslash, if_neg hn, if_neg hr, if_neg ht, if_neg hf,
      if_neg hb]
  by_cases hprintable : 0x20 ≤ c.toNat ∧ c.toNat < 0x7F
  · rw [if_pos (by simpa using hprintable)] at hescaped
    exact ⟨_, piecesOf_self hquote hbackslash hprintable.1 hescaped⟩
  rw [if_neg (by simpa using hprintable)] at hescaped
  by_cases hlow : c.toNat < 0x10000
  · rw [if_pos hlow] at hescaped
    exact ⟨_, piecesOf_unit hlow hescaped⟩
  · rw [if_neg hlow] at hescaped
    have hmax : c.toNat < 0x110000 := by
      rcases c.valid with h | h <;> simp only [Char.toNat] <;> omega
    exact ⟨_, piecesOf_pair (by omega) (by omega) (by omega) hescaped⟩

/-! ## Strings -/

theorem readPieces_flatMap_escapedChar (opened rest : List Char) (cs : List Char) :
    ∃ ps, readPieces opened (cs.flatMap escapedChar ++ doubleQuote :: rest) = .ok (ps, rest) ∧
      characters ps = cs := by
  induction cs with
  | nil => exact ⟨[], by simp [readPieces, doubleQuote], rfl⟩
  | cons c cs ih =>
    obtain ⟨ps, hread, hps⟩ := ih
    obtain ⟨qs, hqs, hchars⟩ := exists_piecesOf c
    refine ⟨qs ++ ps, ?_, by rw [hchars, hps]⟩
    rw [List.flatMap_cons, List.append_assoc, hqs opened _ (by simp), hread]
    rfl

/-- **A written string is read as itself.** -/
theorem readString_escaped (s : String) (rest : List Char) :
    readString (s.toList.flatMap escapedChar ++ doubleQuote :: rest) = .ok (s, rest) := by
  obtain ⟨ps, hread, hps⟩ := readPieces_flatMap_escapedChar
    (s.toList.flatMap escapedChar ++ doubleQuote :: rest) rest s.toList
  rw [readString, hread]
  simp [Except.map, hps]

end SymbolSieve.Json
