/-!
# Integers of 64 bits

Some formats hold integers in words of 64 bits, with or without a sign.

## What is here

`fitsSigned`, `fitsUnsigned`: whether an integer fits into a word.
-/

set_option autoImplicit false

namespace SymbolSieve.Number

/-- The least number of 64 bits whose first bit is set. -/
def firstBit : Int := Nat.pow 2 63

/-- Whether an integer fits into a word with a sign. -/
def fitsSigned (n : Int) : Bool := -firstBit ≤ n && n < firstBit

/-- Whether an integer fits into a word without a sign. -/
def fitsUnsigned (n : Int) : Bool := 0 ≤ n && n < 2 * firstBit

end SymbolSieve.Number
