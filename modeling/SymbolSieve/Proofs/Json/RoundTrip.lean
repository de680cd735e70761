import SymbolSieve.Proofs.Json.Numbers
import SymbolSieve.Proofs.Json.Strings

/-!
# Written values are read again

What is written as JSON text is read as itself, except for what the text does not show: a
floating-point number that is not in the format, and an entry whose key comes again.  The reader's
bound on its recursion is twice the length of the text, which is enough for every text that was
written.

## What is here

* `reread`: what a value becomes when it is written and read again.
* `Starts`: how the text of a value starts; `exists_text_eq_cons`.
* `readValue_text`, `readItems_textItems`, `readEntries_textEntries`: the parts of a written value
  are read one after the other.
* `decode_encode`: the text of a value is read as that.
-/

set_option autoImplicit false

namespace SymbolSieve.Json

open Text Binary64

/-! ## Values after a round -/

mutual

/-- What a value becomes when it is written and read again. -/
def reread : Value → Value
  | .float x => .float (rereadFloat x)
  | .list items => .list (rereadItems items)
  | .map entries => .map (Assoc.ofPairs (rereadEntries entries))
  | v => v

/-- What the items of a list become. -/
def rereadItems : List Value → List Value
  | [] => []
  | v :: rest => reread v :: rereadItems rest

/-- What the entries of a mapping become, a key that comes again not being looked at yet. -/
def rereadEntries : List (String × Value) → List (String × Value)
  | [] => []
  | (k, v) :: rest => (k, reread v) :: rereadEntries rest

end

/-! ## Numbers as values -/

/-- A text that is read as a number starts with a minus sign or a digit. -/
theorem head_of_readNumber {limit : Option Nat} {s : List Char} {r : Value × List Char}
    (h : readNumber limit s = .ok r) :
    ∃ c cs, s = c :: cs ∧ (c = '-' ∨ c.isDigit = true) := by
  cases s with
  | nil => simp [readNumber, readWhole, spanDigits] at h
  | cons c cs =>
    refine ⟨c, cs, rfl, ?_⟩
    by_contra hc
    obtain ⟨hminus, hdigit⟩ := not_or.1 hc
    have hzero : c ≠ '0' := by
      rintro rfl
      exact hdigit (by decide)
    have hwhole : readWhole (c :: cs) = none := by
      rw [readWhole.eq_def]
      split
      next heq => exact absurd (List.cons.inj heq).1 hzero
      next => simp [spanDigits, hdigit]
    rw [readNumber, hwhole] at h
    · cases h
    · exact fun rest heq => hminus (List.cons.inj heq).1

theorem readScalar_of_readNumber {limit : Option Nat} {s : List Char} {r : Value × List Char}
    (h : readNumber limit s = .ok r) : readScalar limit s = .ok r := by
  unfold readScalar
  split
  all_goals first
    | exact h
    | simp [readNumber, readWhole, spanDigits] at h

theorem readValue_of_readNumber {fuel : Nat} {limits : Limits} {s : List Char}
    {r : Value × List Char} (h : readNumber limits.digits s = .ok r) :
    readValue (fuel + 1) limits s = .ok r := by
  obtain ⟨c, cs, rfl, hc⟩ := head_of_readNumber h
  rw [readValue]
  · exact readScalar_of_readNumber h
  all_goals
    rintro rest heq
    obtain ⟨rfl, -⟩ := List.cons.inj heq
    rcases hc with hc | hc <;> exact absurd hc (by decide)

/-! ## The start of a text -/

/-- A character with which the text of a value can start. -/
def Starts (c : Char) : Prop := isSpace c = false ∧ c ≠ ']' ∧ c ≠ '\uFEFF'

theorem starts_of_number {c : Char} (h : c = '-' ∨ c.isDigit = true) : Starts c := by
  rcases h with rfl | h
  · exact ⟨by decide, by decide, by decide⟩
  · obtain ⟨d, rfl, -⟩ := isDigit_eq_ofNat h
    have hall : ∀ d : Fin 10, isSpace (Char.ofNat (48 + d)) = false ∧
        Char.ofNat (48 + d) ≠ ']' ∧ Char.ofNat (48 + d) ≠ '\uFEFF' := by decide
    exact hall d

theorem floatText_finite (negative : Bool) (m : Nat) (e : Int) :
    floatText (.finite negative m e) = sign negative ++ finiteText m e := by
  simp [floatText, Binary64.text, sign]

/-- The text of a value starts with a character that is neither white space nor a closing bracket.
-/
theorem exists_text_eq_cons (v : Value) : ∃ c cs, text v = c :: cs ∧ Starts c := by
  cases v with
  | null => exact ⟨_, _, rfl, by decide, by decide, by decide⟩
  | bool b => cases b <;> exact ⟨_, _, rfl, by decide, by decide, by decide⟩
  | int n =>
    obtain ⟨d, ds, hds, hd⟩ := Number.exists_toDigits_eq_cons n.natAbs
    by_cases hn : n < 0
    · exact ⟨'-', Nat.toDigits 10 n.natAbs, by simp [text, scalarText, intText, natText, hn],
        starts_of_number (.inl rfl)⟩
    · exact ⟨d, ds, by simp [text, scalarText, intText, natText, hn, hds],
        starts_of_number (.inr hd)⟩
  | float x =>
    cases x with
    | nan => exact ⟨_, _, rfl, by decide, by decide, by decide⟩
    | infinite negative => cases negative <;> exact ⟨_, _, rfl, by decide, by decide, by decide⟩
    | finite negative m e =>
      obtain ⟨c, cs, htext, hc⟩ := head_of_readNumber
        (readNumber_finiteText none negative m e closes_nil)
      rw [List.append_nil] at htext
      exact ⟨c, cs, by rw [text, scalarText, floatText_finite, htext]; all_goals simp,
        starts_of_number hc⟩
  | text s => exact ⟨_, _, rfl, by decide, by decide, by decide⟩
  | list items => exact ⟨_, _, rfl, by decide, by decide, by decide⟩
  | map entries => exact ⟨_, _, rfl, by decide, by decide, by decide⟩
  | object attributes => exact ⟨_, _, rfl, by decide, by decide, by decide⟩

theorem exists_textItems_eq_cons {items : List Value} (h : items ≠ []) :
    ∃ c cs, textItems items = c :: cs ∧ Starts c := by
  obtain ⟨v, items, rfl⟩ := List.exists_cons_of_ne_nil h
  obtain ⟨c, cs, htext, hc⟩ := exists_text_eq_cons v
  cases items with
  | nil => exact ⟨c, cs, htext, hc⟩
  | cons w items =>
    exact ⟨c, _, by rw [textItems, htext]; exacts [rfl, by simp], hc⟩

theorem exists_textEntries_eq_cons {entries : List (String × Value)} (h : entries ≠ []) :
    ∃ cs, textEntries entries = '\x22' :: cs := by
  obtain ⟨⟨k, v⟩, entries, rfl⟩ := List.exists_cons_of_ne_nil h
  cases entries with
  | nil => exact ⟨_, rfl⟩
  | cons e entries => exact ⟨_, rfl⟩

theorem skip_of_starts {s : List Char} (h : ∃ c cs, s = c :: cs ∧ Starts c) (rest : List Char) :
    skip (s ++ rest) = s ++ rest := by
  obtain ⟨c, cs, rfl, hc, -⟩ := h
  simp [skip, hc]

/-! ## The parts of lists and mappings -/

/-- The limits that leave so much depth. -/
def Limits.upTo (depth : Nat) : Limits := { digits := some digitLimit, depth := some depth }

section Parts

variable {fuel depth : Nat} {limits : Limits} {s s' rest : List Char}

theorem readValue_list {vs : List Value} (hstart : ∃ c cs, s = c :: cs ∧ Starts c)
    (h : readItems fuel (.upTo depth) s = .ok (vs, rest)) :
    readValue (fuel + 1) (.upTo (depth + 1)) ('[' :: s) = .ok (.list vs, rest) := by
  have hskip : skip s = s := by simpa using skip_of_starts hstart []
  have hinside : (Limits.upTo (depth + 1)).inside = some (.upTo depth) := rfl
  obtain ⟨c, cs, rfl, hc⟩ := hstart
  rw [readValue, hskip, hinside]
  split
  next heq => cases heq
  next heq => exact absurd (List.cons.inj heq).1 hc.2.1
  next hsome _ =>
    cases hsome
    rw [h]
    rfl

theorem readValue_map {es : List (String × Value)}
    (h : readEntries fuel (.upTo depth) ('\x22' :: s) = .ok (es, rest)) :
    readValue (fuel + 1) (.upTo (depth + 1)) ('\x7b' :: '\x22' :: s) =
      .ok (.map (Assoc.ofPairs es), rest) := by
  have hskip : skip ('\x22' :: s) = '\x22' :: s := rfl
  rw [readValue, hskip]
  show (readEntries fuel (.upTo depth) ('\x22' :: s)).map _ = _
  rw [h]
  rfl

theorem readItems_last {v : Value} (h : readValue fuel limits s = .ok (v, ']' :: rest)) :
    readItems (fuel + 1) limits s = .ok ([v], rest) := by
  rw [readItems, h]
  rfl

theorem readItems_cons {v : Value} {vs : List Value}
    (h : readValue fuel limits s = .ok (v, ',' :: s'))
    (hrest : readItems fuel limits (skip s') = .ok (vs, rest)) :
    readItems (fuel + 1) limits s = .ok (v :: vs, rest) := by
  rw [readItems, h]
  show (readItems fuel limits (skip s') >>= _) = _
  rw [hrest]
  rfl

/-- A written key is read with the colon after it. -/
theorem readKey_stringText (k : String) (hstart : ∃ c cs, s = c :: cs ∧ Starts c) :
    readKey (stringText k ++ [':', ' '] ++ s) = .ok (k, s) := by
  have hskip : skip s = s := by simpa using skip_of_starts hstart []
  have htext : stringText k ++ [':', ' '] ++ s =
      doubleQuote :: (k.toList.flatMap escapedChar ++ doubleQuote :: ':' :: ' ' :: s) := by
    simp [stringText]
  have hspace : skip (' ' :: s) = s := (show skip (' ' :: s) = skip s from rfl).trans hskip
  rw [htext, readKey, if_pos rfl, readString_escaped]
  show (pure (k, skip (' ' :: s)) : Except Stop _) = _
  rw [hspace]
  rfl

theorem readEntries_last {k : String} {v : Value} (hkey : readKey s = .ok (k, s'))
    (h : readValue fuel limits s' = .ok (v, '\x7d' :: rest)) :
    readEntries (fuel + 1) limits s = .ok ([(k, v)], rest) := by
  rw [readEntries, hkey]
  show (readValue fuel limits s' >>= _) = _
  rw [h]
  rfl

theorem readEntries_cons {k : String} {v : Value} {es : List (String × Value)} {s'' : List Char}
    (hkey : readKey s = .ok (k, s')) (h : readValue fuel limits s' = .ok (v, ',' :: s''))
    (hrest : readEntries fuel limits (skip s'') = .ok (es, rest)) :
    readEntries (fuel + 1) limits s = .ok ((k, v) :: es, rest) := by
  rw [readEntries, hkey]
  show (readValue fuel limits s' >>= _) = _
  rw [h]
  show (readEntries fuel limits (skip s'') >>= _) = _
  rw [hrest]
  rfl

end Parts

/-! ## Reading what was written -/

theorem readValue_scalarText {v : Value} {fuel depth : Nat} {rest : List Char}
    (hlist : ∀ items, v ≠ .list items) (hmap : ∀ entries, v ≠ .map entries)
    (h : obstacle? depth v = none) (hrest : Closes rest) :
    readValue (fuel + 1) (.upTo depth) (text v ++ rest) = .ok (reread v, rest) := by
  cases v with
  | null => rfl
  | bool b => cases b <;> rfl
  | int n =>
    have hn : writableInt n = true := by
      by_contra hn
      simp [obstacle?, hn] at h
    exact readValue_of_readNumber (readNumber_intText hn hrest)
  | float x =>
    cases x with
    | nan => rfl
    | infinite negative => cases negative <;> rfl
    | finite negative m e =>
      refine readValue_of_readNumber ?_
      have hread := readNumber_finiteText (some digitLimit) negative m e hrest
      simpa [text, scalarText, floatText_finite, reread, Limits.upTo] using hread
  | text s =>
    have htext : text (.text s) ++ rest =
        '\x22' :: (s.toList.flatMap escapedChar ++ doubleQuote :: rest) := by
      simp [text, scalarText, stringText, doubleQuote]
    rw [htext, readValue, readString_escaped]
    rfl
  | list items => exact absurd rfl (hlist items)
  | map entries => exact absurd rfl (hmap entries)
  | object attributes => simp [obstacle?] at h

mutual

/-- A written value is read from the start of a text, if the recursion is bounded by twice its
length. -/
theorem readValue_text (v : Value) {fuel depth : Nat} {rest : List Char}
    (h : obstacle? depth v = none) (hrest : Closes rest) (hfuel : 2 * (text v).length ≤ fuel) :
    readValue fuel (.upTo depth) (text v ++ rest) = .ok (reread v, rest) := by
  have hpos : 0 < (text v).length := by
    obtain ⟨c, cs, htext, -⟩ := exists_text_eq_cons v
    simp [htext]
  obtain ⟨fuel, rfl⟩ := Nat.exists_eq_succ_of_ne_zero (n := fuel) (by omega)
  cases v with
  | list items =>
    obtain ⟨depth, rfl⟩ : ∃ d, depth = d + 1 := by
      refine Nat.exists_eq_succ_of_ne_zero ?_
      rintro rfl
      simp [obstacle?] at h
    simp only [obstacle?, Nat.add_sub_cancel, Nat.succ_ne_zero, if_false] at h
    simp only [text, List.length_append, List.length_cons] at hfuel
    by_cases hitems : items = []
    · subst hitems
      rfl
    · have hread : readItems fuel (.upTo depth) (textItems items ++ ']' :: rest) =
          .ok (rereadItems items, rest) := readItems_textItems items hitems h (by omega)
      have hstart := exists_textItems_eq_cons hitems
      simp only [text, List.cons_append, List.append_assoc]
      refine readValue_list ?_ hread
      obtain ⟨c, cs, htext, hc⟩ := hstart
      exact ⟨c, _, by rw [htext]; rfl, hc⟩
  | map entries =>
    obtain ⟨depth, rfl⟩ : ∃ d, depth = d + 1 := by
      refine Nat.exists_eq_succ_of_ne_zero ?_
      rintro rfl
      simp [obstacle?] at h
    simp only [obstacle?, Nat.add_sub_cancel, Nat.succ_ne_zero, if_false] at h
    simp only [text, List.length_append, List.length_cons] at hfuel
    by_cases hentries : entries = []
    · subst hentries
      rfl
    · have hread : readEntries fuel (.upTo depth) (textEntries entries ++ '\x7d' :: rest) =
          .ok (rereadEntries entries, rest) := readEntries_textEntries entries hentries h (by omega)
      obtain ⟨cs, htext⟩ := exists_textEntries_eq_cons hentries
      simp only [text, List.cons_append, List.append_assoc]
      rw [htext] at hread ⊢
      exact readValue_map hread
  | null => exact readValue_scalarText (by simp) (by simp) h hrest
  | bool b => exact readValue_scalarText (by simp) (by simp) h hrest
  | int n => exact readValue_scalarText (by simp) (by simp) h hrest
  | float x => exact readValue_scalarText (by simp) (by simp) h hrest
  | text s => exact readValue_scalarText (by simp) (by simp) h hrest
  | object attributes => exact readValue_scalarText (by simp) (by simp) h hrest
termination_by structural v

/-- The written items of a list are read up to its closing bracket. -/
theorem readItems_textItems (items : List Value) (hne : items ≠ []) {fuel depth : Nat}
    {rest : List Char} (h : obstacleItems? depth items = none)
    (hfuel : 2 * (textItems items).length + 1 ≤ fuel) :
    readItems fuel (.upTo depth) (textItems items ++ ']' :: rest) =
      .ok (rereadItems items, rest) := by
  obtain ⟨fuel, rfl⟩ := Nat.exists_eq_succ_of_ne_zero (n := fuel) (by omega)
  cases items with
  | nil => exact absurd rfl hne
  | cons v items =>
    rw [obstacleItems?, Option.or_eq_none_iff] at h
    by_cases hitems : items = []
    · subst hitems
      rw [textItems] at hfuel ⊢
      exact readItems_last (readValue_text v h.1 (closes_cons (.inr (.inl rfl)) rest) (by omega))
    · have htext : textItems (v :: items) = text v ++ [',', ' '] ++ textItems items := by
        obtain ⟨w, ws, rfl⟩ := List.exists_cons_of_ne_nil hitems
        rfl
      simp only [htext, List.length_append, List.length_cons] at hfuel
      have hv : readValue fuel (.upTo depth)
          (text v ++ ',' :: (' ' :: (textItems items ++ ']' :: rest))) =
            .ok (reread v, ',' :: (' ' :: (textItems items ++ ']' :: rest))) :=
        readValue_text v h.1 (closes_cons (.inl rfl) _) (by omega)
      have hrest : readItems fuel (.upTo depth) (textItems items ++ ']' :: rest) =
          .ok (rereadItems items, rest) := readItems_textItems items hitems h.2 (by omega)
      have hskip := skip_of_starts (exists_textItems_eq_cons hitems) (']' :: rest)
      rw [htext, List.append_assoc, List.append_assoc]
      refine readItems_cons hv ?_
      rwa [← hskip] at hrest
termination_by structural items

/-- The written entries of a mapping are read up to its closing brace. -/
theorem readEntries_textEntries (entries : List (String × Value)) (hne : entries ≠ [])
    {fuel depth : Nat} {rest : List Char} (h : obstacleEntries? depth entries = none)
    (hfuel : 2 * (textEntries entries).length + 1 ≤ fuel) :
    readEntries fuel (.upTo depth) (textEntries entries ++ '\x7d' :: rest) =
      .ok (rereadEntries entries, rest) := by
  obtain ⟨fuel, rfl⟩ := Nat.exists_eq_succ_of_ne_zero (n := fuel) (by omega)
  match entries with
  | [] => exact absurd rfl hne
  | (k, v) :: entries =>
    rw [obstacleEntries?, Option.or_eq_none_iff] at h
    have hstart : ∀ rest', ∃ c cs, text v ++ rest' = c :: cs ∧ Starts c := by
      intro rest'
      obtain ⟨c, cs, htext, hc⟩ := exists_text_eq_cons v
      exact ⟨c, _, by rw [htext]; rfl, hc⟩
    by_cases hentries : entries = []
    · subst hentries
      simp only [textEntries, List.length_append, List.length_cons] at hfuel
      rw [textEntries, List.append_assoc]
      exact readEntries_last (readKey_stringText k (hstart _))
        (readValue_text v h.1 (closes_cons (.inr (.inr rfl)) rest) (by omega))
    · have htext : textEntries ((k, v) :: entries) =
          stringText k ++ [':', ' '] ++ text v ++ [',', ' '] ++ textEntries entries := by
        obtain ⟨w, ws, rfl⟩ := List.exists_cons_of_ne_nil hentries
        rfl
      simp only [htext, List.length_append, List.length_cons] at hfuel
      have hv : readValue fuel (.upTo depth)
          (text v ++ ',' :: (' ' :: (textEntries entries ++ '\x7d' :: rest))) =
            .ok (reread v, ',' :: (' ' :: (textEntries entries ++ '\x7d' :: rest))) :=
        readValue_text v h.1 (closes_cons (.inl rfl) _) (by omega)
      have hrest : readEntries fuel (.upTo depth) (textEntries entries ++ '\x7d' :: rest) =
          .ok (rereadEntries entries, rest) :=
        readEntries_textEntries entries hentries h.2 (by omega)
      obtain ⟨cs, hcons⟩ := exists_textEntries_eq_cons hentries
      rw [htext, List.append_assoc, List.append_assoc, List.append_assoc]
      refine readEntries_cons (readKey_stringText k (hstart _)) hv ?_
      rw [hcons] at hrest ⊢
      exact hrest
termination_by structural entries

end

/-- **What is written is read again**, as `reread` says. -/
theorem decode_encode {v : Value} {t : String} (h : encode v = .ok t) :
    decode t = .ok (reread v) := by
  rw [encode] at h
  split at h
  · cases h
  next hobstacle =>
    cases h
    obtain ⟨c, cs, htext, hc⟩ := exists_text_eq_cons v
    have hskip : skip (text v) = text v := by simpa using skip_of_starts ⟨c, cs, htext, hc⟩ []
    have hread := readValue_text v hobstacle closes_nil (Nat.le_succ (2 * (text v).length))
    rw [List.append_nil] at hread
    have hchars : decodeChars .standard (text v) = .ok (reread v) := by
      simp only [decodeChars, hskip]
      rw [show Limits.standard = Limits.upTo depthLimit from rfl, hread]
      rfl
    rw [decode, decodeWith, String.toList_ofList]
    split
    next heq =>
      rw [htext] at heq
      exact absurd (List.cons.inj heq).1 hc.2.2
    next => exact hchars

end SymbolSieve.Json
