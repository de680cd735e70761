import SymbolSieve.Json.Reader
import SymbolSieve.Proofs.Outcome
import SymbolSieve.Proofs.Text.Ascii

/-!
# Reading without limits

Limits make the reader stop at some texts, and make no other difference.  So a text stands for a
value of its own, and whoever reads it within limits reads that value or nothing.

## What is here

* `UpToLimits`: a reading within limits that did not meet one has the result of the other reading.
* `ReadsUpToLimits`: that is so of the three mutual readers, step by step.
* `decode_upToLimits`: the same for texts; `decodeWith_of_decode` is what follows for a value that
  was read.
* `Spells`: the value that bytes stand for; `WithinLimits`, bytes for which the limits do not matter,
  and `decodeBytes_cases`, what becomes of bytes.
* `decodeBytes_of_ascii`: the bytes of a text of ASCII are read as that text is.
-/

set_option autoImplicit false

namespace SymbolSieve.Json

variable {α β : Type}

/-- A reading within limits met one of them, or has the result of the reading without limits. -/
def UpToLimits (limited unlimited : Except Stop α) : Prop :=
  limited = unlimited ∨ limited = .error .longInteger ∨ limited = .error .tooDeep

namespace UpToLimits

theorem refl (r : Except Stop α) : UpToLimits r r := .inl rfl

theorem bind {r r' : Except Stop α} {k k' : α → Except Stop β} (h : UpToLimits r r')
    (hk : ∀ a, UpToLimits (k a) (k' a)) : UpToLimits (r >>= k) (r' >>= k') := by
  rcases h with rfl | rfl | rfl
  · cases r with
    | error stop => exact .inl rfl
    | ok a => exact hk a
  · exact .inr (.inl rfl)
  · exact .inr (.inr rfl)

theorem map {r r' : Except Stop α} (h : UpToLimits r r') (f : α → β) :
    UpToLimits (r.map f) (r'.map f) := by
  rcases h with rfl | rfl | rfl
  · exact .refl _
  · exact .inr (.inl rfl)
  · exact .inr (.inr rfl)

end UpToLimits

theorem readNumber_upToLimits (limit : Option Nat) (s : List Char) :
    UpToLimits (readNumber limit s) (readNumber none s) := by
  simp only [readNumber]
  split
  next => exact .refl _
  next =>
    split
    next =>
      split
      next => exact .inr (.inl rfl)
      next => exact .refl _
    next => exact .refl _

theorem readScalar_upToLimits (limit : Option Nat) (s : List Char) :
    UpToLimits (readScalar limit s) (readScalar none s) := by
  unfold readScalar
  split
  case h_7 => exact readNumber_upToLimits limit s
  all_goals exact .refl _

/-- Limits make no other difference to readers that recur so often at most. -/
structure ReadsUpToLimits (fuel : Nat) : Prop where
  value : ∀ limits s, UpToLimits (readValue fuel limits s) (readValue fuel {} s)
  items : ∀ limits s, UpToLimits (readItems fuel limits s) (readItems fuel {} s)
  entries : ∀ limits s, UpToLimits (readEntries fuel limits s) (readEntries fuel {} s)

namespace ReadsUpToLimits

variable {fuel : Nat}

theorem value_succ (ih : ReadsUpToLimits fuel) (limits : Limits) (s : List Char) :
    UpToLimits (readValue (fuel + 1) limits s) (readValue (fuel + 1) {} s) := by
  have hinside : ({} : Limits).inside = some {} := rfl
  rw [readValue.eq_def (fuel + 1) limits s]
  split
  case h_1 heq => cases heq
  case h_2 heq =>
    cases heq
    rw [readValue, hinside]
    split
    next => exact .inr (.inr rfl)
    next hskip =>
      rw [hskip]
      exact .refl _
    next => exact (ih.items _ _).map _
  case h_3 heq =>
    cases heq
    rw [readValue, hinside]
    split
    next => exact .inr (.inr rfl)
    next hskip =>
      rw [hskip]
      exact .refl _
    next => exact (ih.entries _ _).map _
  case h_4 heq =>
    cases heq
    rw [readValue]
    exact .refl _
  case h_5 heq _ _ _ =>
    cases heq
    rw [readValue]
    · exact readScalar_upToLimits _ _
    all_goals assumption

theorem items_succ (ih : ReadsUpToLimits fuel) (limits : Limits) (s : List Char) :
    UpToLimits (readItems (fuel + 1) limits s) (readItems (fuel + 1) {} s) := by
  rw [readItems, readItems]
  refine (ih.value limits s).bind fun r => ?_
  dsimp only
  split
  next => exact .refl _
  next => exact (ih.items limits _).bind fun _ => .refl _
  next => exact .refl _

theorem entries_succ (ih : ReadsUpToLimits fuel) (limits : Limits) (s : List Char) :
    UpToLimits (readEntries (fuel + 1) limits s) (readEntries (fuel + 1) {} s) := by
  rw [readEntries, readEntries]
  refine (UpToLimits.refl _).bind fun k => (ih.value limits _).bind fun r => ?_
  dsimp only
  split
  next => exact .refl _
  next => exact (ih.entries limits _).bind fun _ => .refl _
  next => exact .refl _

end ReadsUpToLimits

/-- **Limits make no other difference to the readers.** -/
theorem readsUpToLimits (fuel : Nat) : ReadsUpToLimits fuel := by
  induction fuel with
  | zero => constructor <;> intro limits s <;> simp only [readValue, readItems, readEntries] <;>
      exact .refl _
  | succ fuel ih => exact ⟨ih.value_succ, ih.items_succ, ih.entries_succ⟩

theorem decodeChars_upToLimits (cs : List Char) :
    decodeChars .standard cs = decodeChars {} cs ∨ decodeChars .standard cs = .error .longInteger ∨
      decodeChars .standard cs = .error .tooDeep := by
  simp only [decodeChars]
  rcases (readsUpToLimits (2 * cs.length + 1)).value .standard (skip cs) with h | h | h
  · exact .inl (by rw [h])
  · exact .inr (.inl (by rw [h]))
  · exact .inr (.inr (by rw [h]))

/-- **A text is read as the value that it stands for**, unless a limit is met. -/
theorem decode_upToLimits (t : String) : decode t = decodeWith {} t ∨
    decode t = .error .longInteger ∨ decode t = .error .tooDeep := by
  simp only [decode, decodeWith]
  split
  next => exact .inl rfl
  next => exact decodeChars_upToLimits t.toList

theorem decodeWith_of_decode {t : String} {v : Value} (h : decode t = .ok v) :
    decodeWith {} t = .ok v := by
  rcases decode_upToLimits t with heq | heq | heq
  · rw [← heq, h]
  · rw [h] at heq
    cases heq
  · rw [h] at heq
    cases heq

/-! ## Bytes -/

/-- Bytes that stand for a value, whatever the limits are. -/
def Spells (bytes : ByteArray) (v : Value) : Prop :=
  ∃ cs, Text.decode bytes = some cs ∧ decodeChars {} cs = .ok v

/-- Bytes for which the limits do not matter: nothing in them is nested too deeply, and if they
stand for a value then its integers are not too long. -/
structure WithinLimits (bytes : ByteArray) : Prop where
  depth : decodeBytes bytes ≠ .error .tooDeep
  digits : (∃ v, Spells bytes v) → decodeBytes bytes ≠ .error .longInteger

theorem WithinLimits.of_ok {bytes : ByteArray} {v : Value} (h : decodeBytes bytes = .ok v) :
    WithinLimits bytes := by
  constructor <;> rw [h] <;> nofun

/-- **Bytes are read as the value that they stand for**, or not at all if there is none, unless a
limit is met. -/
theorem decodeBytes_cases (bytes : ByteArray) :
    (∃ v, Spells bytes v ∧ decodeBytes bytes = .ok v) ∨
      ((∀ v, ¬ Spells bytes v) ∧ ∃ fault, fault ≠ .tooDeep ∧ decodeBytes bytes = .error fault) ∨
      decodeBytes bytes = .error .longInteger ∨ decodeBytes bytes = .error .tooDeep := by
  cases htext : Text.decode bytes with
  | none =>
    refine .inr (.inl ⟨?_, .notText, nofun, by simp only [decodeBytes, htext]⟩)
    rintro v ⟨cs, hcs, -⟩
    rw [htext] at hcs
    cases hcs
  | some cs =>
    have hbytes : decodeBytes bytes = decodeChars .standard cs := by
      simp only [decodeBytes, htext]
    rw [hbytes]
    rcases decodeChars_upToLimits cs with heq | heq | heq
    · cases hread : decodeChars {} cs with
      | ok v => exact .inl ⟨v, ⟨cs, htext, hread⟩, heq.trans hread⟩
      | error fault =>
        rw [heq, hread]
        by_cases hdeep : fault = .tooDeep
        · exact .inr (.inr (.inr (by rw [hdeep])))
        · refine .inr (.inl ⟨?_, fault, hdeep, rfl⟩)
          rintro v ⟨cs', hcs', hv⟩
          obtain rfl : cs = cs' := Option.some.inj (htext.symm.trans hcs')
          rw [hread] at hv
          cases hv
    · exact .inr (.inr (.inl heq))
    · exact .inr (.inr (.inr heq))

/-- What is read is what the bytes stand for. -/
theorem Spells.of_ok {bytes : ByteArray} {v : Value} (h : decodeBytes bytes = .ok v) :
    Spells bytes v := by
  rcases decodeBytes_cases bytes with ⟨v', hv', hread⟩ | ⟨-, fault, -, hread⟩ | hread | hread <;>
    rw [hread] at h <;> cases h
  exact hv'

theorem decodeBytes_of_ascii {t : String} (h : ∀ c ∈ t.toList, 0 < c.toNat ∧ c.toNat < 0x80) :
    decodeBytes t.toUTF8 = decode t := by
  simp only [decodeBytes, Text.decode_of_ascii h, decode, decodeWith]
  split
  next heq => exact absurd (h _ (heq ▸ List.mem_cons_self)).2 (by decide)
  next => rfl

end SymbolSieve.Json
