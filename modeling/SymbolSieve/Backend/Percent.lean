import SymbolSieve.Text.Encoding
import SymbolSieve.Text.Split

/-!
# Percent-encoding

A character that may not stand in a part of an address is written as its UTF-8 bytes, each of them
as a percent sign and two upper-case hexadecimal digits. In one segment of a path only letters,
digits and the four marks `-`, `.`, `_`, `~` stand as they are.

## What is here

* `encode`, `encodeSegment`: a text as a part of an address, and as a segment of a path.
* `decodeBytes`, `decode`: the bytes that a percent-encoded text stands for, and the text that they
  are.
* `splitQuery`: a text in front of its first question mark and behind it.
-/

set_option autoImplicit false

namespace SymbolSieve.Percent

/-- The upper-case hexadecimal digit of a number below sixteen. -/
def hexDigit (n : Nat) : Char :=
  if n < 10 then Char.ofNat (0x30 + n) else Char.ofNat (0x41 + n - 10)

/-- The encoded form of a character. -/
def encodeChar (c : Char) : List Char :=
  (String.singleton c).toUTF8.toList.flatMap fun b =>
    ['%', hexDigit (b.toNat / 16), hexDigit (b.toNat % 16)]

/-- A text in which only some characters stand as they are. -/
def encode (plain : Char → Bool) (s : List Char) : List Char :=
  s.flatMap fun c => if plain c then [c] else encodeChar c

/-- A character that stands for itself in a segment of a path. -/
def isUnreserved (c : Char) : Bool :=
  c.isAlphanum || c = '-' || c = '.' || c = '_' || c = '~'

/-- A text as a segment of a path. -/
def encodeSegment (s : String) : String := String.ofList (encode isUnreserved s.toList)

/-- The value of a hexadecimal digit. -/
def hexValue? (b : UInt8) : Option Nat :=
  let n := b.toNat
  if 0x30 ≤ n && n ≤ 0x39 then some (n - 0x30)
  else if 0x41 ≤ n && n ≤ 0x46 then some (n - 0x41 + 10)
  else if 0x61 ≤ n && n ≤ 0x66 then some (n - 0x61 + 10)
  else none

/-- The bytes that an encoded text stands for. A percent sign without two digits stands for
itself. -/
def decodeBytes : List UInt8 → List UInt8
  | [] => []
  | 0x25 :: a :: b :: rest =>
    match hexValue? a, hexValue? b with
    | some x, some y => UInt8.ofNat (x * 16 + y) :: decodeBytes rest
    | _, _ => 0x25 :: decodeBytes (a :: b :: rest)
  | b :: rest => b :: decodeBytes rest

/-- The text that an encoded text stands for. Where its bytes are no text, there are gaps in it. -/
def decode (s : String) : String := Text.ofUtf8 (decodeBytes s.toUTF8.toList)

/-- A text in front of its first question mark, and what is behind it if there is one. -/
def splitQuery (s : List Char) : List Char × Option (List Char) :=
  (s.takeWhile (· != '?'), (s.dropWhile (· != '?')).tail?)

end SymbolSieve.Percent
