import Mathlib.Data.List.Basic
import SymbolSieve.Text.Encoding

/-!
# Texts of ASCII as bytes

Each character of ASCII is one byte in UTF-8.  If the character of number zero is not among them,
the bytes of such a text are taken for what they are.

## What is here

* `toList_toUTF8_of_ascii`: the bytes of a text of ASCII.
* `decode_of_ascii`: the text that they are.
-/

set_option autoImplicit false

namespace SymbolSieve.Text

/-! ## Bytes of a text -/

theorem toList_loop_eq (bytes : ByteArray) (i : Nat) (r : List UInt8) :
    ByteArray.toList.loop bytes i r = r.reverse ++ bytes.data.toList.drop i := by
  fun_induction ByteArray.toList.loop bytes i r with
  | case1 i r hlt ih =>
    have hdrop : bytes.data.toList.drop i = bytes.get! i :: bytes.data.toList.drop (i + 1) := by
      have hget : bytes.get! i = bytes.data[i] := getElem!_pos bytes.data i hlt
      rw [hget, List.drop_eq_getElem_cons (by simpa using hlt)]
      rfl
    rw [ih, hdrop, List.reverse_cons, List.append_assoc, List.singleton_append]
  | case2 i r hlt =>
    rw [List.drop_eq_nil_of_le (by simpa using Nat.le_of_not_lt hlt), List.append_nil]

theorem toList_eq (bytes : ByteArray) : bytes.toList = bytes.data.toList := by
  rw [ByteArray.toList, toList_loop_eq]
  rfl

theorem toList_toUTF8_of_ascii {s : String} (h : ∀ c ∈ s.toList, c.toNat < 0x80) :
    s.toUTF8.toList = s.toList.map fun c => UInt8.ofNat c.toNat := by
  have hbytes : s.toUTF8 = s.toList.utf8Encode := by
    rw [← String.toByteArray_ofList, String.ofList_toList]
    rfl
  rw [hbytes, toList_eq, List.utf8Encode, List.data_toByteArray, List.map_eq_flatMap]
  refine List.flatMap_congr fun c hc => ?_
  have hsmall : c.val.toNat ≤ 127 := Nat.le_of_lt_succ (h c hc)
  exact if_pos hsmall

/-! ## The text that bytes are -/

theorem toNat_ofNat_of_ascii {c : Char} (h : c.toNat < 0x80) :
    (UInt8.ofNat c.toNat).toNat = c.toNat :=
  UInt8.toNat_ofNat_of_lt' (Nat.lt_trans h (by decide))

theorem utf8_of_ascii {cs : List Char} (h : ∀ c ∈ cs, c.toNat < 0x80) :
    utf8 (cs.map fun c => UInt8.ofNat c.toNat) = cs.map some := by
  induction cs with
  | nil => rw [List.map_nil, utf8, List.map_nil]
  | cons c cs ih =>
    have hc := h c List.mem_cons_self
    have htake : takeUtf8 (UInt8.ofNat c.toNat) (cs.map fun c => UInt8.ofNat c.toNat) =
        (some c, cs.map fun c => UInt8.ofNat c.toNat) := by
      simp only [takeUtf8, followers, leadBits, toNat_ofNat_of_ascii hc, if_pos hc, follow,
        Option.map_some, Char.ofNat_toNat]
    rw [List.map_cons, utf8, htake, ih fun c hc => h c (List.mem_cons_of_mem _ hc), List.map_cons]

/-- Bytes without a zero are taken for UTF-8. -/
theorem ofBytes_of_ne_zero {bytes : List UInt8} (h : ∀ b ∈ bytes, b ≠ 0) :
    Encoding.ofBytes bytes = .utf8 := by
  unfold Encoding.ofBytes
  split <;> simp_all

/-- **The bytes of a text of ASCII** are that text. -/
theorem decode_of_ascii {s : String} (h : ∀ c ∈ s.toList, 0 < c.toNat ∧ c.toNat < 0x80) :
    decode s.toUTF8 = some s.toList := by
  have hencoding : Encoding.ofBytes (s.toList.map fun c => UInt8.ofNat c.toNat) = .utf8 := by
    refine ofBytes_of_ne_zero fun b hb => ?_
    obtain ⟨c, hc, rfl⟩ := List.mem_map.1 hb
    obtain ⟨hpos, hlt⟩ := h c hc
    intro hzero
    have hbyte := congrArg UInt8.toNat hzero
    rw [toNat_ofNat_of_ascii hlt] at hbyte
    exact absurd hbyte (Nat.ne_of_gt hpos)
  have hall : (s.toList.map some).mapM id = some s.toList := by
    rw [List.mapM_map]
    exact (List.mapM_pure (f := id)).trans (by rw [List.map_id]; rfl)
  rw [decode, toList_toUTF8_of_ascii fun c hc => (h c hc).2]
  simp only [hencoding, utf8_of_ascii fun c hc => (h c hc).2, hall, Option.map_some]
  split
  next rest hrest =>
    exact absurd (h _ (hrest ▸ List.mem_cons_self)).2 (by decide)
  next => rfl

end SymbolSieve.Text
