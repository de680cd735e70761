import Mathlib.Data.List.TakeWhile
import SymbolSieve.Json.Writer
import SymbolSieve.Json.Reader
import SymbolSieve.Proofs.Number.Nearest

/-!
# Written numbers are read again

An integer is read as itself.  A floating-point number is written by a decimal in one of three
layouts, and from each of them that decimal is read again, perhaps with zeros at its end.

## What is here

* `Closes`: what may follow a value in a text.
* `readNumber_int`, `readNumber_float`: the two kinds of number, part by part.
* `readNumber_intText`: a written integer is read as itself.
* `readsAs_layout`: the decimal that is read where one was written has the same value.
* `readNumber_finiteText`: what a written floating-point number is read as.
-/

set_option autoImplicit false

namespace SymbolSieve.Json

open Text Binary64

/-- What may follow a value in a text: nothing, a comma or a closing bracket. -/
def Closes (rest : List Char) : Prop := ∀ c ∈ rest.head?, c = ',' ∨ c = ']' ∨ c = '\x7d'

theorem closes_nil : Closes [] := by simp [Closes]

theorem closes_cons {c : Char} (h : c = ',' ∨ c = ']' ∨ c = '\x7d') (rest : List Char) :
    Closes (c :: rest) := by
  simpa [Closes] using h

theorem isDigit_of_closes {rest : List Char} (h : Closes rest) :
    ∀ c ∈ rest.head?, c.isDigit = false := by
  intro c hc
  rcases h c hc with rfl | rfl | rfl <;> decide

/-! ## Digits -/

/-- Digits are read up to the first character that is none. -/
theorem spanDigits_append {ds rest : List Char} (h : ∀ c ∈ ds, c.isDigit = true)
    (hrest : ∀ c ∈ rest.head?, c.isDigit = false) :
    spanDigits (ds ++ rest) = (asciiValues ds, rest) := by
  have htake : rest.takeWhile Char.isDigit = [] := by
    cases rest with
    | nil => rfl
    | cons c rest => simp [hrest c (by simp)]
  have hdrop : rest.dropWhile Char.isDigit = rest := by
    cases rest with
    | nil => rfl
    | cons c rest => simp [hrest c (by simp)]
  rw [spanDigits, List.takeWhile_append_of_pos h, List.dropWhile_append_of_pos h, htake, hdrop,
    List.append_nil]
  rfl

theorem ofDigits_append (ds es : List Nat) :
    ofDigits (ds ++ es) = ofDigits ds * 10 ^ es.length + ofDigits es := by
  have general : ∀ (es : List Nat) (n : Nat), es.foldl (fun n d => 10 * n + d) n =
      n * 10 ^ es.length + es.foldl (fun n d => 10 * n + d) 0 := by
    intro es
    induction es with
    | nil => intro n; simp
    | cons e es ih =>
      intro n
      rw [List.foldl_cons, List.foldl_cons, ih (10 * n + e), ih (10 * 0 + e), List.length_cons,
        Nat.pow_succ]
      ring
  rw [ofDigits, List.foldl_append, general]
  rfl

theorem ofDigits_zeros (k : Nat) : ofDigits (List.replicate k 0) = 0 := by
  induction k with
  | zero => rfl
  | succ k ih => rwa [List.replicate_succ]

theorem asciiValues_append (ds es : List Char) :
    asciiValues (ds ++ es) = asciiValues ds ++ asciiValues es := List.map_append ..

theorem asciiValues_zeros (k : Nat) : asciiValues (List.replicate k '0') = List.replicate k 0 :=
  List.map_replicate ..

/-- The first digit of a number is a zero only if the number is zero. -/
theorem head_toDigits_ne_zero {n : Nat} (h : 0 < n) : ∀ c ∈ (Nat.toDigits 10 n).head?, c ≠ '0' := by
  induction n using Nat.strongRecOn with
  | ind n ih =>
    rw [Nat.toDigits_eq_if (by decide)]
    split
    next hlt =>
      have hall : ∀ d : Fin 10, 0 < d.val → Nat.digitChar d ≠ '0' := by decide
      simpa using hall ⟨n, hlt⟩ h
    next hge =>
      obtain ⟨d, ds, hds, -⟩ := Number.exists_toDigits_eq_cons (n / 10)
      have hrest := ih (n / 10) (by omega) (by omega)
      rw [hds] at hrest ⊢
      simpa using hrest

/-! ## The parts of a number -/

/-- Some digits are the whole part of a number: there is at least one, and none but a zero alone
starts with a zero. -/
def IsWhole (ds : List Char) : Prop :=
  ds ≠ [] ∧ (∀ c ∈ ds, c.isDigit = true) ∧ ((∀ c ∈ ds.head?, c ≠ '0') ∨ ds = ['0'])

theorem isWhole_toDigits (n : Nat) : IsWhole (Nat.toDigits 10 n) := by
  refine ⟨Nat.toDigits_ne_nil, fun c hc => isDigit_toDigits hc, ?_⟩
  rcases Nat.eq_zero_or_pos n with rfl | h
  · exact .inr (Nat.toDigits_zero 10)
  · exact .inl (head_toDigits_ne_zero h)

theorem readWhole_append {ds rest : List Char} (h : IsWhole ds)
    (hrest : ∀ c ∈ rest.head?, c.isDigit = false) :
    readWhole (ds ++ rest) = some (asciiValues ds, rest) := by
  obtain ⟨hne, hdigits, hzero⟩ := h
  rcases hzero with hzero | rfl
  · obtain ⟨d, ds, rfl⟩ := List.exists_cons_of_ne_nil hne
    have hd : d ≠ '0' := hzero d (by simp)
    have hspan := spanDigits_append hdigits hrest
    rw [List.cons_append] at hspan ⊢
    rw [readWhole.eq_def]
    split
    next heq => exact absurd (List.cons.inj heq).1 hd
    next => rw [hspan]; rfl
  · rfl

theorem readFraction_none {rest : List Char} (h : ∀ c ∈ rest.head?, c ≠ '.') :
    readFraction rest = (none, rest) := by
  rw [readFraction.eq_def]
  split
  next => exact absurd rfl (h '.' (by simp))
  next => rfl

theorem readFraction_append (ds : List Char) {rest : List Char} (hne : ds ≠ [])
    (hdigits : ∀ c ∈ ds, c.isDigit = true) (hrest : ∀ c ∈ rest.head?, c.isDigit = false) :
    readFraction ('.' :: ds ++ rest) = (some (asciiValues ds), rest) := by
  rw [List.cons_append, readFraction, spanDigits_append hdigits hrest]
  obtain ⟨d, ds, rfl⟩ := List.exists_cons_of_ne_nil hne
  rfl

theorem readExponent_none (rest : List Char) (h : ∀ c ∈ rest.head?, c ≠ 'e' ∧ c ≠ 'E') :
    readExponent rest = (none, rest) := by
  cases rest with
  | nil => rfl
  | cons c rest =>
    have hc := h c (by simp)
    simp [readExponent, hc.1, hc.2]

/-- What follows a value is no exponent. -/
theorem readExponent_of_closes {rest : List Char} (h : Closes rest) :
    readExponent rest = (none, rest) :=
  readExponent_none rest fun c hc => by rcases h c hc with rfl | rfl | rfl <;> decide

/-- A written exponent is read as itself. -/
theorem readExponent_exponentText (k : Int) {rest : List Char}
    (hrest : ∀ c ∈ rest.head?, c.isDigit = false) :
    readExponent ('e' :: exponentText k ++ rest) = (some k, rest) := by
  obtain ⟨ds, hds⟩ : ∃ ds, ds = List.replicate (2 - (Nat.toDigits 10 k.natAbs).length) '0' ++
      Nat.toDigits 10 k.natAbs := ⟨_, rfl⟩
  have hdigits : ∀ c ∈ ds, c.isDigit = true := by
    intro c hc
    rw [hds, List.mem_append] at hc
    rcases hc with hc | hc
    · rw [List.eq_of_mem_replicate hc]
      rfl
    · exact isDigit_toDigits hc
  have hvalue : ofDigits (asciiValues ds) = k.natAbs := by
    rw [hds, asciiValues_append, asciiValues_zeros, ofDigits_append, ofDigits_zeros,
      ofDigits_asciiValues_toDigits]
    simp
  obtain ⟨n, ns, hns⟩ : ∃ n ns, asciiValues ds = n :: ns := by
    refine List.exists_cons_of_ne_nil ?_
    simp [hds, asciiValues]
  have htext : exponentText k = (if k < 0 then '-' else '+') :: ds := by
    rw [exponentText, hds, List.cons_append]
  have hspan := spanDigits_append hdigits hrest
  rw [hns] at hvalue hspan
  rw [htext]
  by_cases hk : k < 0
  · have habs : -(k.natAbs : Int) = k := by omega
    simp only [if_pos hk, readExponent, List.cons_append, Number.takeSign, hspan, hvalue, habs]
    rfl
  · have habs : (k.natAbs : Int) = k := by omega
    simp only [if_neg hk, readExponent, List.cons_append, Number.takeSign, hspan, hvalue, habs]
    rfl

/-! ## Numbers -/

/-- The minus sign of a negative number. -/
def sign (negative : Bool) : List Char := if negative then ['-'] else []

/-- What a number is read as once its sign and its whole part have been read. -/
def afterWhole (limit : Option Nat) (negative : Bool) (whole : List Nat) (rest : List Char) :
    Except Stop (Value × List Char) :=
  match (readFraction rest).1, (readExponent (readFraction rest).2).1 with
  | none, none =>
    if limit.any (· < whole.length) then .error .longInteger
    else .ok (.int (if negative then -(ofDigits whole : Int) else ofDigits whole),
      (readExponent (readFraction rest).2).2)
  | fraction, exponent =>
    .ok (.float (ofDecimal negative (ofDigits (whole ++ fraction.getD []))
      (exponent.getD 0 - (fraction.getD []).length)), (readExponent (readFraction rest).2).2)

section Parts

variable {limit : Option Nat} {ds rest : List Char}

theorem readNumber_sign (negative : Bool) (h : IsWhole ds)
    (hrest : ∀ c ∈ rest.head?, c.isDigit = false) :
    readNumber limit (sign negative ++ (ds ++ rest)) =
      afterWhole limit negative (asciiValues ds) rest := by
  have hwhole := readWhole_append h hrest
  obtain ⟨d, ds, rfl⟩ := List.exists_cons_of_ne_nil h.1
  have hd : d ≠ '-' := by
    rintro rfl
    exact absurd (h.2.1 '-' (by simp)) (by decide)
  have hsign : ∀ cs, d :: ds ++ rest = '-' :: cs → False := fun cs heq =>
    hd (List.cons.inj heq).1
  cases hfraction : readFraction rest with
  | mk fraction rest' =>
    cases hexponent : readExponent rest' with
    | mk exponent rest'' =>
      cases negative with
      | true =>
        rw [sign, if_pos rfl, List.singleton_append, readNumber, hwhole, afterWhole]
        cases fraction <;> cases exponent <;> simp [hfraction, hexponent]
      | false =>
        rw [sign, if_neg (by decide), List.nil_append, readNumber, hwhole, afterWhole]
        · cases fraction <;> cases exponent <;> simp [hfraction, hexponent]
        · exact hsign

/-- A number that has neither a fraction nor an exponent is an integer. -/
theorem readNumber_int (negative : Bool) (h : IsWhole ds) (hlimit : ∀ n ∈ limit, ds.length ≤ n)
    (hrest : Closes rest) : readNumber limit (sign negative ++ (ds ++ rest)) =
      .ok (.int (if negative then -(ofDigits (asciiValues ds) : Int)
        else ofDigits (asciiValues ds)), rest) := by
  have hfraction := readFraction_none fun c hc => by
    rcases hrest c hc with rfl | rfl | rfl <;> decide
  have hexponent := readExponent_of_closes hrest
  have hshort : limit.any (· < (asciiValues ds).length) = false := by
    cases limit with
    | none => rfl
    | some n => simpa [asciiValues] using hlimit n rfl
  rw [readNumber_sign negative h (isDigit_of_closes hrest), afterWhole, hfraction, hexponent]
  simp [hshort]

/-- A number that has a fraction or an exponent is a floating-point number. -/
theorem readNumber_float (limit : Option Nat) (negative : Bool) (ds rest : List Char)
    {fraction : Option (List Nat)} {exponent : Option Int} {rest' rest'' : List Char}
    (h : IsWhole ds) (hrest : ∀ c ∈ rest.head?, c.isDigit = false)
    (hfraction : readFraction rest = (fraction, rest'))
    (hexponent : readExponent rest' = (exponent, rest''))
    (hsome : fraction.isSome ∨ exponent.isSome) :
    readNumber limit (sign negative ++ (ds ++ rest)) =
      .ok (.float (ofDecimal negative (ofDigits (asciiValues ds ++ fraction.getD []))
        (exponent.getD 0 - (fraction.getD []).length)), rest'') := by
  rw [readNumber_sign negative h hrest, afterWhole, hfraction, hexponent]
  cases fraction <;> cases exponent <;> simp_all

end Parts

/-- **A written integer is read as itself.** -/
theorem readNumber_intText {n : Int} (h : writableInt n = true) {rest : List Char}
    (hrest : Closes rest) :
    readNumber (some digitLimit) ((intText n).toList ++ rest) = .ok (.int n, rest) := by
  have htext : (intText n).toList = sign (n < 0) ++ Nat.toDigits 10 n.natAbs := by
    by_cases hn : n < 0 <;> simp [intText, natText, sign, hn]
  have hlength := Number.length_toDigits_le (writableInt_iff.1 h)
  rw [asciiValues, List.length_map] at hlength
  rw [htext, List.append_assoc, readNumber_int (n < 0) (isWhole_toDigits _)
    (by simpa using hlength) hrest, ofDigits_asciiValues_toDigits]
  by_cases hn : n < 0
  · have habs : -(n.natAbs : Int) = n := by omega
    simp only [hn, decide_true, if_true, habs]
  · have habs : (n.natAbs : Int) = n := by omega
    simp only [hn, decide_false, Bool.false_eq_true, if_false, habs]

/-! ## Layouts -/

theorem ofDigits_pos {ds : List Char} (hne : ds ≠ []) (hdigits : ∀ c ∈ ds, c.isDigit = true)
    (hhead : ∀ c ∈ ds.head?, c ≠ '0') : 0 < ofDigits (asciiValues ds) := by
  obtain ⟨d, ds, rfl⟩ := List.exists_cons_of_ne_nil hne
  obtain ⟨hlow, -⟩ := isDigit_iff_toNat.1 (hdigits d (by simp))
  have hd : d.toNat ≠ 48 := fun h => hhead d (by simp) (Char.ext (UInt32.toNat_inj.1 h))
  have hfirst : ofDigits [d.toNat - 48] = d.toNat - 48 := by simp [ofDigits]
  have hsplit := ofDigits_append [d.toNat - 48] (asciiValues ds)
  rw [hfirst] at hsplit
  have hpos : 0 < (d.toNat - 48) * 10 ^ (asciiValues ds).length :=
    Nat.mul_pos (by omega) (Nat.pow_pos (by decide))
  have hcons : asciiValues (d :: ds) = [d.toNat - 48] ++ asciiValues ds := rfl
  rw [hcons, hsplit]
  omega

section Layouts

variable {limit : Option Nat} {ds rest : List Char}

/-- The decimal `ds`, its first digit having the weight `10 ^ k`, is read from a text, perhaps with
zeros at its end. -/
def ReadsAs (limit : Option Nat) (negative : Bool) (ds : List Char) (k : Int)
    (text rest : List Char) : Prop :=
  ∃ digits exponent, readNumber limit (sign negative ++ (text ++ rest)) =
      .ok (.float (ofDecimal negative digits exponent), rest) ∧ 0 < digits ∧
    (digits : ℚ) * 10 ^ exponent = ofDigits (asciiValues ds) * 10 ^ (k + 1 - ds.length)

/-- The layout with an exponent. -/
theorem readsAs_scientific (limit : Option Nat) (negative : Bool) (hne : ds ≠ [])
    (hdigits : ∀ c ∈ ds, c.isDigit = true) (hhead : ∀ c ∈ ds.head?, c ≠ '0') (k : Int)
    (hrest : Closes rest) :
    ReadsAs limit negative ds k (ds.take 1 ++
      (if (ds.drop 1).isEmpty then [] else '.' :: ds.drop 1) ++ 'e' :: exponentText k) rest := by
  have hpos := ofDigits_pos hne hdigits hhead
  obtain ⟨d, ds, rfl⟩ := List.exists_cons_of_ne_nil hne
  have hwhole : IsWhole [d] := by
    refine ⟨by simp, fun c hc => ?_, .inl fun c hc => ?_⟩
    · obtain rfl := List.mem_singleton.1 hc
      exact hdigits c (by simp)
    · exact hhead c (by simpa using hc)
  have hexponent := readExponent_exponentText k (isDigit_of_closes hrest)
  rcases List.eq_nil_or_concat' ds with rfl | ⟨_, _, hcons⟩
  · have hread := readNumber_float limit negative _ ('e' :: exponentText k ++ rest) hwhole (by simp)
      (readFraction_none (by simp)) hexponent (.inr rfl)
    refine ⟨_, _, by simpa using hread, by simpa using hpos, ?_⟩
    simp
  · have hne' : ds ≠ [] := by
      rw [hcons]
      simp
    have hread := readNumber_float limit negative _ ('.' :: ds ++ ('e' :: exponentText k ++ rest))
      hwhole (by simp)
      (readFraction_append _ hne' (fun c hc => hdigits c (by simp [hc])) (by simp))
      hexponent (.inl rfl)
    refine ⟨_, _, by simpa [hne'] using hread, by simpa [asciiValues] using hpos, ?_⟩
    simp [asciiValues]

/-- The layout with zeros between the point and the digits. -/
theorem readsAs_small (limit : Option Nat) (negative : Bool) (hne : ds ≠ [])
    (hdigits : ∀ c ∈ ds, c.isDigit = true) (hhead : ∀ c ∈ ds.head?, c ≠ '0') {k : Int}
    (hk : k < 0) (hrest : Closes rest) :
    ReadsAs limit negative ds k
      ('0' :: '.' :: (List.replicate (-k - 1).toNat '0' ++ ds)) rest := by
  have hwhole : IsWhole ['0'] := ⟨by simp, by simp, .inr rfl⟩
  have hfraction := readFraction_append (List.replicate (-k - 1).toNat '0' ++ ds)
    (by simp [hne]) (fun c hc => by
      rcases List.mem_append.1 hc with hc | hc
      · rw [List.eq_of_mem_replicate hc]
        rfl
      · exact hdigits c hc) (isDigit_of_closes hrest)
  have hexponent := readExponent_of_closes hrest
  have hread := readNumber_float limit negative _ _ hwhole (by simp) hfraction hexponent
    (.inl rfl)
  have hvalue : ofDigits (asciiValues ['0'] ++
      asciiValues (List.replicate (-k - 1).toNat '0' ++ ds)) = ofDigits (asciiValues ds) := by
    rw [asciiValues_append, asciiValues_zeros, ofDigits_append, ofDigits_append, ofDigits_zeros]
    simp [asciiValues, ofDigits]
  have hlength : (asciiValues (List.replicate (-k - 1).toNat '0' ++ ds)).length =
      (-k - 1).toNat + ds.length := by simp [asciiValues]
  simp only [Option.getD_some, Option.getD_none, hvalue, hlength] at hread
  refine ⟨_, _, hread, ofDigits_pos hne hdigits hhead, ?_⟩
  congr 2
  omega

/-- The layout with the point between two digits. -/
theorem readsAs_between (limit : Option Nat) (negative : Bool)
    (hdigits : ∀ c ∈ ds, c.isDigit = true) (hhead : ∀ c ∈ ds.head?, c ≠ '0') {n : Nat}
    (hlong : n + 1 < ds.length) (hrest : Closes rest) :
    ReadsAs limit negative ds n (ds.take (n + 1) ++ '.' :: ds.drop (n + 1)) rest := by
  have hne : ds ≠ [] := List.ne_nil_of_length_pos (by omega)
  have hwhole : IsWhole (ds.take (n + 1)) := by
    refine ⟨by simpa using hne, fun c hc => hdigits c (List.mem_of_mem_take hc), .inl ?_⟩
    exact fun c hc => hhead c (by simpa [List.head?_take] using hc)
  have hne' : ds.drop (n + 1) ≠ [] := by simpa using hlong
  have hread := readNumber_float limit negative _ _ hwhole (by simp)
    (readFraction_append _ hne' (fun c hc => hdigits c (List.mem_of_mem_drop hc))
      (isDigit_of_closes hrest)) (readExponent_of_closes hrest) (.inl rfl)
  simp only [Option.getD_some, Option.getD_none, ← asciiValues_append,
    List.take_append_drop] at hread
  refine ⟨_, _, by simpa using hread, ofDigits_pos hne hdigits hhead, ?_⟩
  congr 2
  simp [asciiValues]
  omega

/-- The layout with the point behind all digits, where zeros fill the gap. -/
theorem readsAs_behind (limit : Option Nat) (negative : Bool) (hne : ds ≠ [])
    (hdigits : ∀ c ∈ ds, c.isDigit = true) (hhead : ∀ c ∈ ds.head?, c ≠ '0') {n : Nat}
    (hshort : ds.length ≤ n + 1) (hrest : Closes rest) :
    ReadsAs limit negative ds n (ds ++ List.replicate (n + 1 - ds.length) '0' ++ ['.', '0'])
      rest := by
  have hwhole : IsWhole (ds ++ List.replicate (n + 1 - ds.length) '0') := by
    refine ⟨by simp [hne], fun c hc => ?_, .inl fun c hc => ?_⟩
    · rcases List.mem_append.1 hc with hc | hc
      · exact hdigits c hc
      · rw [List.eq_of_mem_replicate hc]
        rfl
    · obtain ⟨d, ds, rfl⟩ := List.exists_cons_of_ne_nil hne
      exact hhead c (by simpa using hc)
  have hread := readNumber_float limit negative _ _ hwhole (by simp)
    (readFraction_append ['0'] (by simp) (by simp) (isDigit_of_closes hrest))
    (readExponent_of_closes hrest) (.inl rfl)
  have hzeros : List.replicate (n + 1 - ds.length) 0 ++ asciiValues ['0'] =
      List.replicate (n + 1 - ds.length + 1) 0 := (List.replicate_succ' ..).symm
  have hvalue : ofDigits (asciiValues (ds ++ List.replicate (n + 1 - ds.length) '0') ++
      asciiValues ['0']) = ofDigits (asciiValues ds) * 10 ^ (n + 1 - ds.length + 1) := by
    rw [asciiValues_append, asciiValues_zeros, List.append_assoc, ofDigits_append, hzeros,
      ofDigits_zeros, List.length_replicate, Nat.add_zero]
  simp only [Option.getD_some, Option.getD_none, hvalue] at hread
  have hpos := ofDigits_pos hne hdigits hhead
  refine ⟨_, _, by simpa using hread, Nat.mul_pos hpos (Nat.pow_pos (by decide)), ?_⟩
  push_cast
  rw [mul_assoc, ← zpow_natCast, ← zpow_add₀ (by norm_num)]
  congr 2
  simp [asciiValues]
  omega

/-- The layout with digits before and after the point. -/
theorem readsAs_positional (limit : Option Nat) (negative : Bool) (hne : ds ≠ [])
    (hdigits : ∀ c ∈ ds, c.isDigit = true) (hhead : ∀ c ∈ ds.head?, c ≠ '0') {k : Int}
    (hk : 0 ≤ k) (hrest : Closes rest) :
    ReadsAs limit negative ds k
      (ds.take (k.toNat + 1) ++ List.replicate (k.toNat + 1 - ds.length) '0' ++
        '.' :: if (ds.drop (k.toNat + 1)).isEmpty then ['0'] else ds.drop (k.toNat + 1)) rest := by
  obtain ⟨n, rfl⟩ := Int.eq_ofNat_of_zero_le hk
  rw [Int.toNat_natCast]
  rcases Nat.lt_or_ge (n + 1) ds.length with hlong | hshort
  · have hbetween := readsAs_between limit negative hdigits hhead hlong hrest
    have hempty : (ds.drop (n + 1)).isEmpty = false := by simpa using hlong
    rw [show n + 1 - ds.length = 0 by omega, hempty, List.replicate_zero, List.append_nil]
    exact hbetween
  · rw [List.drop_eq_nil_of_le hshort, List.take_of_length_le hshort]
    exact readsAs_behind limit negative hne hdigits hhead hshort hrest

/-- **Every layout** of some digits is read as the decimal that they stand for. -/
theorem readsAs_layout (limit : Option Nat) (negative : Bool) (hne : ds ≠ [])
    (hdigits : ∀ c ∈ ds, c.isDigit = true) (hhead : ∀ c ∈ ds.head?, c ≠ '0') (k : Int)
    (hrest : Closes rest) :
    ReadsAs limit negative ds k (Binary64.layout valueStyle ds k) rest := by
  simp only [Binary64.layout]
  split
  · have hscientific := readsAs_scientific limit negative hne hdigits hhead k hrest
    cases hempty : (ds.drop 1).isEmpty <;> rw [hempty] at hscientific <;>
      simpa [hempty, valueStyle] using hscientific
  · split
    next hk => simpa using readsAs_small limit negative hne hdigits hhead hk hrest
    next hk =>
      exact readsAs_positional limit negative hne hdigits hhead (by omega) hrest

end Layouts

/-! ## Floating-point numbers -/

/-- Digits are a first part and the zeros that are dropped. -/
theorem dropZeros_append (ds : List Char) :
    (dropZeros ds).1 ++ List.replicate (dropZeros ds).2 '0' = ds := by
  have hzeros : ds.reverse.takeWhile (· == '0') =
      List.replicate (ds.reverse.takeWhile (· == '0')).length '0' := by
    rw [List.eq_replicate_iff]
    exact ⟨rfl, fun c hc => by simpa using List.mem_takeWhile_imp hc⟩
  have hsplit : ds = (ds.reverse.dropWhile (· == '0')).reverse ++
      List.replicate (ds.reverse.takeWhile (· == '0')).length '0' := by
    rw [← List.reverse_replicate, ← hzeros, ← List.reverse_append, List.takeWhile_append_dropWhile,
      List.reverse_reverse]
  simp only [dropZeros]
  generalize (ds.reverse.takeWhile (· == '0')).length = zeros at hsplit ⊢
  generalize (ds.reverse.dropWhile (· == '0')).reverse = kept at hsplit
  subst hsplit
  simp

/-- A written decimal is read as a decimal of the same value. -/
theorem readNumber_decimal {limit : Option Nat} {negative : Bool} {d : Decimal} (h : 0 < d.digits)
    {rest : List Char} (hrest : Closes rest) :
    readNumber limit (sign negative ++ (d.layout valueStyle ++ rest)) =
      .ok (.float (ofDecimal negative d.digits d.exponent), rest) := by
  have happend := dropZeros_append (Nat.toDigits 10 d.digits)
  have hhead := head_toDigits_ne_zero h
  have hdigits : ∀ c ∈ Nat.toDigits 10 d.digits, c.isDigit = true := fun c hc => isDigit_toDigits hc
  have hvalue := ofDigits_asciiValues_toDigits d.digits
  have hnil := Nat.toDigits_ne_nil (n := d.digits) (b := 10)
  rw [Decimal.layout]
  generalize Nat.toDigits 10 d.digits = all at *
  generalize dropZeros all = kept at *
  obtain ⟨kept, zeros⟩ := kept
  dsimp only at happend ⊢
  subst happend
  have hkept : kept ≠ [] := by
    rintro rfl
    obtain ⟨z, rfl⟩ := Nat.exists_eq_succ_of_ne_zero (n := zeros) (by rintro rfl; exact hnil rfl)
    exact hhead '0' (by simp [List.replicate_succ]) rfl
  obtain ⟨digits, exponent, hread, hpos, heq⟩ := readsAs_layout limit negative hkept
    (fun c hc => hdigits c (List.mem_append_left _ hc))
    (fun c hc => hhead c (by
      obtain ⟨k, ks, rfl⟩ := List.exists_cons_of_ne_nil hkept
      simpa using hc))
    (d.exponent + (kept ++ List.replicate zeros '0').length - 1) hrest
  rw [hread, ofDecimal_eq_of_value_eq negative hpos h]
  rw [heq, ← hvalue, asciiValues_append, asciiValues_zeros, ofDigits_append, ofDigits_zeros,
    List.length_replicate, Nat.add_zero, Nat.cast_mul, Nat.cast_pow, Nat.cast_ofNat, mul_assoc,
    ← zpow_natCast, ← zpow_add₀ (by norm_num)]
  congr 2
  simp
  omega

/-- What a floating-point number becomes when it is written and read again. -/
def rereadFloat : Binary64 → Binary64
  | .finite negative m e =>
    if m = 0 then zero negative
    else ofDecimal negative (shortest m e).digits (shortest m e).exponent
  | x => x

/-- **A number of the format is read as itself.** -/
theorem rereadFloat_of_inFormat {x : Binary64} (h : InFormat x) : rereadFloat x = x := by
  cases x with
  | nan => rfl
  | infinite negative => rfl
  | finite negative m e =>
    rw [rereadFloat]
    split
    next hm =>
      subst hm
      obtain ⟨-, -, -, hzero | rfl⟩ := h
      · exact absurd hzero (by norm_num)
      · rfl
    next hm => exact shortest_readsBack_of_inFormat h (Nat.pos_of_ne_zero hm)

/-- **A written finite number** is read again. -/
theorem readNumber_finiteText (limit : Option Nat) (negative : Bool) (m : Nat) (e : Int)
    {rest : List Char} (hrest : Closes rest) :
    readNumber limit (sign negative ++ (finiteText m e ++ rest)) =
      .ok (.float (rereadFloat (.finite negative m e)), rest) := by
  rw [finiteText, rereadFloat]
  split
  · have hread := readNumber_float limit negative ['0'] _
      ⟨by simp, by simp, .inr rfl⟩ (by simp)
      (readFraction_append ['0'] (by simp) (by simp) (isDigit_of_closes hrest))
      (readExponent_of_closes hrest) (.inl rfl)
    exact hread
  next hm => exact readNumber_decimal (shortest_digits_pos e (Nat.pos_of_ne_zero hm)) hrest

end SymbolSieve.Json
