import SymbolSieve.Text.Ranges

/-!
# Decimal digits

Numbers in queries may be written with the decimal digits of any script: the characters with the
Unicode property `Nd`, version 14. Each script has its ten digits on consecutive code points, so a
table of zeros is enough.
-/

set_option autoImplicit false

namespace SymbolSieve.Text

/-- The code points of the digits zero, in increasing order. -/
def zeros : List Nat :=
  [0x0030, 0x0660, 0x06F0, 0x07C0, 0x0966, 0x09E6, 0x0A66, 0x0AE6, 0x0B66, 0x0BE6, 0x0C66, 0x0CE6,
    0x0D66, 0x0DE6, 0x0E50, 0x0ED0, 0x0F20, 0x1040, 0x1090, 0x17E0, 0x1810, 0x1946, 0x19D0, 0x1A80,
    0x1A90, 0x1B50, 0x1BB0, 0x1C40, 0x1C50, 0xA620, 0xA8D0, 0xA900, 0xA9D0, 0xA9F0, 0xAA50, 0xABF0,
    0xFF10, 0x104A0, 0x10D30, 0x11066, 0x110F0, 0x11136, 0x111D0, 0x112F0, 0x11450, 0x114D0,
    0x11650, 0x116C0, 0x11730, 0x118E0, 0x11950, 0x11C50, 0x11D50, 0x11DA0, 0x16A60, 0x16AC0,
    0x16B50, 0x1D7CE, 0x1D7D8, 0x1D7E2, 0x1D7EC, 0x1D7F6, 0x1E140, 0x1E2F0, 0x1E950, 0x1FBF0]

/-- The value of a code point as a digit, given the zeros in increasing order. -/
def digitFrom (n : Nat) : List Nat → Option Nat
  | [] => none
  | z :: rest => if n < z then none else if n < z + 10 then some (n - z) else digitFrom n rest

/-- The value of a decimal digit. -/
def digit? (c : Char) : Option Nat := digitFrom c.toNat zeros

theorem digitFrom_lt {n d : Nat} {zs : List Nat} (h : digitFrom n zs = some d) : d < 10 := by
  induction zs with
  | nil => simp [digitFrom] at h
  | cons z rest ih =>
    unfold digitFrom at h
    split at h
    · simp at h
    · split at h
      · simp at h; omega
      · exact ih h

/-- A digit stands for a number below ten. -/
theorem digit?_lt {c : Char} {d : Nat} (h : digit? c = some d) : d < 10 := digitFrom_lt h

/-- The ASCII digits have their own values. -/
theorem digit?_ascii (d : Fin 10) : digit? (Char.ofNat (48 + d)) = some d.val := by
  revert d; decide

/-- The number that a list of digit values denotes, most significant first. -/
def ofDigits (ds : List Nat) : Nat := ds.foldl (fun n d => 10 * n + d) 0

/-- The characters of a natural number in decimal notation. -/
def natText (n : Nat) : String := String.ofList (Nat.toDigits 10 n)

/-- The characters of an integer in decimal notation. -/
def intText (n : Int) : String :=
  if n < 0 then "-" ++ natText n.natAbs else natText n.natAbs

end SymbolSieve.Text
