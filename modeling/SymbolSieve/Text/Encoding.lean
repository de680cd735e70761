/-!
# Texts as bytes

What comes over a wire is bytes. They are UTF-8, or else UTF-16 or UTF-32, which is told by the
zeros among the first bytes, since a text in question begins with characters of ASCII.

## What is here

* `utf8`: the characters that bytes are in UTF-8, with a gap where they are none.
* `utf16`, `utf32`: the same for wider units, either byte of which may come first.
* `Encoding.ofBytes`, `decode`: how bytes encode a text, and that text.
-/

set_option autoImplicit false

namespace SymbolSieve.Text

/-- The character that stands for what is none. -/
def replacement : Char := '\uFFFD'

/-! ## UTF-8 -/

/-- The ranges of the bytes that may follow a leading one. -/
def followers (lead : Nat) : Option (List (Nat × Nat)) :=
  let any := (0x80, 0xBF)
  if lead < 0x80 then some []
  else if lead < 0xC2 then none
  else if lead < 0xE0 then some [any]
  else if lead = 0xE0 then some [(0xA0, 0xBF), any]
  else if lead = 0xED then some [(0x80, 0x9F), any]
  else if lead < 0xF0 then some [any, any]
  else if lead = 0xF0 then some [(0x90, 0xBF), any, any]
  else if lead < 0xF4 then some [any, any, any]
  else if lead = 0xF4 then some [(0x80, 0x8F), any, any]
  else none

/-- The bits of a leading byte that belong to the character. -/
def leadBits (lead : Nat) : Nat :=
  if lead < 0x80 then lead
  else if lead < 0xE0 then lead % 0x20
  else if lead < 0xF0 then lead % 0x10
  else lead % 0x08

/-- A character begun by some bits, with the bytes that follow in their ranges: its number, or
nothing where a byte is not in its range, and the bytes from there on. -/
def follow (bits : Nat) : List (Nat × Nat) → List UInt8 → Option Nat × List UInt8
  | [], rest => (some bits, rest)
  | _ :: _, [] => (none, [])
  | (low, high) :: ranges, b :: rest =>
    if low ≤ b.toNat && b.toNat ≤ high then follow (bits * 0x40 + b.toNat % 0x40) ranges rest
    else (none, b :: rest)

theorem length_follow_le (bits : Nat) (ranges : List (Nat × Nat)) (bytes : List UInt8) :
    (follow bits ranges bytes).2.length ≤ bytes.length := by
  fun_induction follow bits ranges bytes with
  | case1 => simp
  | case2 => simp
  | case3 _ _ _ _ b rest _ ih => exact Nat.le_succ_of_le ih
  | case4 => simp

/-- The character that bytes begin with, or nothing if they begin with none, and what is left of
them after it. -/
def takeUtf8 (lead : UInt8) (rest : List UInt8) : Option Char × List UInt8 :=
  match followers lead.toNat with
  | none => (none, rest)
  | some ranges =>
    let found := follow (leadBits lead.toNat) ranges rest
    (found.1.map Char.ofNat, found.2)

theorem length_takeUtf8_le (lead : UInt8) (rest : List UInt8) :
    (takeUtf8 lead rest).2.length ≤ rest.length := by
  unfold takeUtf8
  split
  · exact Nat.le_refl _
  · exact length_follow_le _ _ _

/-- The characters of bytes in UTF-8. Bytes that begin no character leave one gap together, up to
the first byte that cannot go on with what they began. -/
def utf8 : List UInt8 → List (Option Char)
  | [] => []
  | lead :: rest => (takeUtf8 lead rest).1 :: utf8 (takeUtf8 lead rest).2
termination_by bytes => bytes.length
decreasing_by
  have := length_takeUtf8_le lead rest
  simp only [List.length_cons]
  omega

/-- The text of bytes in UTF-8, with the replacement character in its gaps. -/
def ofUtf8 (bytes : List UInt8) : String :=
  String.ofList ((utf8 bytes).map fun c => c.getD replacement)

/-! ## Wider units -/

/-- Whether a unit of UTF-16 is the first half of a pair. -/
def isHigh (n : Nat) : Bool := 0xD800 ≤ n && n < 0xDC00

/-- Whether a unit of UTF-16 is the second half of a pair. -/
def isLow (n : Nat) : Bool := 0xDC00 ≤ n && n < 0xE000

/-- The character of two halves of a pair. -/
def ofPair (high low : Nat) : Char :=
  Char.ofNat (0x10000 + (high - 0xD800) * 0x400 + (low - 0xDC00))

/-- The character of a unit on its own; half of a pair is none. -/
def ofUnit (n : Nat) : Char := if isHigh n || isLow n then replacement else Char.ofNat n

/-- The characters of units of UTF-16. -/
def ofUnits : List Nat → List Char
  | [] => []
  | [n] => [ofUnit n]
  | n :: k :: rest =>
    if isHigh n && isLow k then ofPair n k :: ofUnits rest else ofUnit n :: ofUnits (k :: rest)

/-- The characters of bytes in UTF-16; there has to be an even number of them. -/
def utf16 (bigEndian : Bool) (bytes : List UInt8) : Option (List Char) :=
  (units bytes).map ofUnits
where
  /-- The units, of two bytes each. -/
  units : List UInt8 → Option (List Nat)
    | [] => some []
    | [_] => none
    | a :: b :: rest =>
      let n := if bigEndian then a.toNat * 0x100 + b.toNat else b.toNat * 0x100 + a.toNat
      (units rest).map (n :: ·)

/-- The characters of bytes in UTF-32; their number has to be a multiple of four. -/
def utf32 (bigEndian : Bool) : List UInt8 → Option (List Char)
  | [] => some []
  | a :: b :: c :: d :: rest =>
    let ds := if bigEndian then [a, b, c, d] else [d, c, b, a]
    let n := ds.foldl (fun n b => n * 0x100 + b.toNat) 0
    if n < 0x110000 then (utf32 bigEndian rest).map (ofUnit n :: ·) else none
  | _ => none

/-! ## Encodings -/

/-- The ways in which bytes encode a text. -/
inductive Encoding where
  | utf8
  | utf16 (bigEndian : Bool)
  | utf32 (bigEndian : Bool)
  deriving DecidableEq, Repr

/-- How some bytes encode a text that begins with characters of ASCII. -/
def Encoding.ofBytes : List UInt8 → Encoding
  | [a, b] => if a = 0 then utf16 true else if b = 0 then utf16 false else utf8
  | a :: b :: c :: d :: _ =>
    if a = 0 then (if b = 0 then utf32 true else utf16 true)
    else if b = 0 then (if c = 0 && d = 0 then utf32 false else utf16 false)
    else utf8
  | _ => utf8

/-- The characters of bytes, if they are a text. A byte order mark in front of UTF-8 is left out. -/
def decode (bytes : ByteArray) : Option (List Char) :=
  let bytes := bytes.toList
  match Encoding.ofBytes bytes with
  | .utf8 => ((utf8 bytes).mapM id).map fun
    | '\uFEFF' :: rest => rest
    | cs => cs
  | .utf16 bigEndian => utf16 bigEndian bytes
  | .utf32 bigEndian => utf32 bigEndian bytes

end SymbolSieve.Text
