import SymbolSieve.Number.Binary64
import SymbolSieve.Text.Blank
import SymbolSieve.Text.Case

/-!
# Numbers written as text

Two ways to read a number are in use. A query is read leniently: an integer may be followed by
anything. A setting or a record field is read strictly: the text must be a number and nothing else,
apart from white space around it and single underscores between digits. Both accept the decimal
digits of any script, and neither reads an integer of more than `digitLimit` digits.

## What is here

* `leadingInt`: the integer at the start of a text.
* `readInt`: a text that is an integer.
* `readFloat`: a text that is a number.
-/

set_option autoImplicit false

namespace SymbolSieve

/-- The number of digits, leading zeros included, beyond which integers are neither read nor
written. -/
def digitLimit : Nat := 4300

/-- Why a text was not read as a number. -/
inductive NumberFault where
  | malformed
  | tooManyDigits (count : Nat)
  deriving DecidableEq, Repr

namespace Number

open Text

/-- A sign, if there is one, and what follows it. The flag says whether the number is negative. -/
def takeSign : List Char → Bool × List Char
  | '+' :: rest => (false, rest)
  | '-' :: rest => (true, rest)
  | rest => (false, rest)

/-- The digits at the start of a text. -/
def takeDigits : List Char → List Nat
  | [] => []
  | c :: rest => match digit? c with
    | some d => d :: takeDigits rest
    | none => []

/-- The integer with the given sign and digits, if there are not too many of them. -/
def ofSignedDigits (negative : Bool) (ds : List Nat) : Except NumberFault Int :=
  if digitLimit < ds.length then .error (.tooManyDigits ds.length)
  else .ok (if negative then -(ofDigits ds : Int) else ofDigits ds)

/-! ## Lenient reading -/

/-- The integer at the start of a text, after white space and a sign; `none` if there is no digit
there. -/
def leadingInt (s : List Char) : Except NumberFault (Option Int) :=
  let (negative, rest) := takeSign (s.dropWhile isBlank)
  match takeDigits rest with
  | [] => .ok none
  | ds => (ofSignedDigits negative ds).map some

/-! ## Strict reading -/

/-- White space around a number that is read strictly: the information separators are not
accepted. -/
def isMargin (c : Char) : Bool := isBlank c && !(0x1C ≤ c.toNat && c.toNat ≤ 0x1F)

/-- Digits with single underscores between them, up to the end of the text. `fresh` says that a
digit must come next. -/
def spacedDigits (fresh : Bool) : List Char → Option (List Nat)
  | [] => if fresh then none else some []
  | c :: rest =>
    if c = '_' then (if fresh then none else spacedDigits true rest)
    else match digit? c with
      | some d => (spacedDigits false rest).map (d :: ·)
      | none => none

/-- A text that is an integer. -/
def readInt (s : String) : Except NumberFault Int :=
  let (negative, rest) := takeSign (trimBy isMargin s.toList)
  match spacedDigits true rest with
  | none => .error .malformed
  | some ds => ofSignedDigits negative ds

/-- The text without underscores, if each of them stands between two digits. `before` says whether
a digit precedes. -/
def withoutUnderscores (before : Bool) : List Char → Option (List Char)
  | [] => some []
  | '_' :: rest =>
    let follows := match rest with
      | c :: _ => (digit? c).isSome
      | [] => false
    if before && follows then withoutUnderscores false rest else none
  | c :: rest => (withoutUnderscores (digit? c).isSome rest).map (c :: ·)

/-- The exponent part of a number, up to the end of the text. -/
def exponentPart : List Char → Option Int
  | [] => some 0
  | c :: rest =>
    if c = 'e' || c = 'E' then
      let (negative, rest) := takeSign rest
      let ds := takeDigits rest
      if ds.isEmpty || ds.length < rest.length then none
      else some (if negative then -(ofDigits ds : Int) else ofDigits ds)
    else none

/-- A number without sign: digits, perhaps a point and more digits, perhaps an exponent. -/
def unsignedFloat (negative : Bool) (s : List Char) : Option Binary64 :=
  let whole := takeDigits s
  let rest := s.drop whole.length
  let (fraction, rest) := match rest with
    | '.' :: more =>
      let ds := takeDigits more
      (ds, more.drop ds.length)
    | _ => ([], rest)
  if whole.isEmpty && fraction.isEmpty then none
  else (exponentPart rest).map fun e =>
    Binary64.ofDecimal negative (ofDigits (whole ++ fraction)) (e - fraction.length)

/-- A text that is a number. Infinity and not-a-number have names, in any case. -/
def readFloat (s : String) : Except NumberFault Binary64 :=
  match withoutUnderscores false (trimBy isMargin s.toList) with
  | none => .error .malformed
  | some cs =>
    let (negative, rest) := takeSign cs
    let name := String.ofList (rest.map Char.toLower)
    if name = "inf" || name = "infinity" then .ok (.infinite negative)
    else if name = "nan" then .ok .nan
    else match unsignedFloat negative rest with
      | some x => .ok x
      | none => .error .malformed

end Number

end SymbolSieve
