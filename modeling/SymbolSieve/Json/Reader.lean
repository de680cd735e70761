import SymbolSieve.Json.Limits
import SymbolSieve.Value.Basic
import SymbolSieve.Text.Encoding
import SymbolSieve.Text.Quoted

/-!
# Reading JSON text

Texts are read strictly, except that `NaN`, `Infinity` and `-Infinity` are numbers. White space is
the space, the tab and the two line breaks. Of two entries with one key the first gives the place
and the last the value. A number with a point or an exponent is a floating-point number, any other
an integer.

## What is here

* `Fault`: why a text was not read. Its offset says how much of the text was good.
* `readValue`: one value at the start of a text, and what follows it.
* `decode`: a text that is one value; `decodeBytes` reads it from bytes.

A value takes at least one character away, and so does an item, so twice the length of the text
bounds the recursion.
-/

set_option autoImplicit false

namespace SymbolSieve.Json

/-- Why a text was not read. -/
inductive Fault where
  /-- The text breaks off or goes wrong at an offset, in characters from its start. -/
  | unexpected (offset : Nat)
  /-- An integer has too many digits. -/
  | longInteger
  /-- Lists and mappings are nested too deeply. -/
  | tooDeep
  /-- The bytes are no text. -/
  | notText
  deriving DecidableEq, Repr

/-- Why a part of a text was not read: with the number of characters that were left, or for one of
the limits. -/
inductive Stop where
  | before (left : Nat)
  | longInteger
  | tooDeep
  deriving DecidableEq, Repr

/-- JSON white space. -/
def isSpace (c : Char) : Bool := c = ' ' || c = '\t' || c = '\n' || c = '\r'

/-- A text without the white space at its start. -/
def skip (s : List Char) : List Char := s.dropWhile isSpace

/-! ## Strings -/

/-- The value of a hexadecimal digit. -/
def hexDigit? (c : Char) : Option Nat :=
  let n := c.toNat
  if 0x30 ≤ n && n ≤ 0x39 then some (n - 0x30)
  else if 0x61 ≤ n && n ≤ 0x66 then some (n - 0x61 + 10)
  else if 0x41 ≤ n && n ≤ 0x46 then some (n - 0x41 + 10)
  else none

/-- The UTF-16 unit with four hexadecimal digits. -/
def unit? (a b c d : Char) : Option Nat := do
  return (((← hexDigit? a) * 16 + (← hexDigit? b)) * 16 + (← hexDigit? c)) * 16 + (← hexDigit? d)

/-- A piece of a string: a character, or a UTF-16 unit that was written as an escape. -/
inductive Piece where
  | char (c : Char)
  | unit (n : Nat)
  deriving DecidableEq, Repr

/-- The character of a one-letter escape. -/
def escape? (c : Char) : Option Char :=
  if c = Text.doubleQuote || c = '\\' || c = '/' then some c
  else if c = 'b' then some '\x08'
  else if c = 'f' then some '\x0c'
  else if c = 'n' then some '\n'
  else if c = 'r' then some '\r'
  else if c = 't' then some '\t'
  else none

/-- A result with a piece in front of it. -/
def prepend (p : Piece) (r : Except Stop (List Piece × List Char)) :
    Except Stop (List Piece × List Char) :=
  r.map fun r => (p :: r.1, r.2)

/-- The pieces of a string up to its closing quote. The first argument is what follows the opening
quote, to which a fault at the end of the text leads back. -/
def readPieces (opened : List Char) : List Char → Except Stop (List Piece × List Char)
  | [] => .error (.before (opened.length + 1))
  | '\\' :: 'u' :: a :: b :: c :: d :: rest =>
    match unit? a b c d, rest.isEmpty with
    | some n, false => prepend (.unit n) (readPieces opened rest)
    | _, _ => .error (.before (rest.length + 5))
  | '\\' :: 'u' :: rest => .error (.before (rest.length + 1))
  | ['\\'] => .error (.before (opened.length + 1))
  | '\\' :: c :: rest =>
    match escape? c with
    | some e => prepend (.char e) (readPieces opened rest)
    | none => .error (.before (rest.length + 2))
  | c :: rest =>
    if c = Text.doubleQuote then .ok ([], rest)
    else if c.toNat < 0x20 then .error (.before (rest.length + 1))
    else prepend (.char c) (readPieces opened rest)

/-- The characters that pieces stand for. Two units that form a pair stand for one character, and
half of a pair on its own stands for the replacement character. -/
def characters : List Piece → List Char
  | [] => []
  | .char c :: rest => c :: characters rest
  | .unit n :: .unit k :: rest =>
    if Text.isHigh n && Text.isLow k then Text.ofPair n k :: characters rest
    else Text.ofUnit n :: characters (.unit k :: rest)
  | .unit n :: rest => Text.ofUnit n :: characters rest

/-- Whether half of a pair of UTF-16 units stands on its own among the escapes of a text, or at its
start if the other half is awaited there. -/
def hasHalfPair (awaited : Bool) : List Char → Bool
  | '\\' :: 'u' :: a :: b :: c :: d :: rest =>
    let n := (unit? a b c d).getD 0
    (awaited != Text.isLow n) || hasHalfPair (Text.isHigh n) rest
  | '\\' :: _ :: rest => awaited || hasHalfPair false rest
  | _ :: rest => awaited || hasHalfPair false rest
  | [] => awaited

/-- The rest of a string after its opening quote. -/
def readString (rest : List Char) : Except Stop (String × List Char) :=
  (readPieces rest rest).map fun r => (String.ofList (characters r.1), r.2)

/-! ## Numbers -/

/-- The ASCII digits at the start of a text, and what follows them. -/
def spanDigits (s : List Char) : List Nat × List Char :=
  ((s.takeWhile Char.isDigit).map (fun c => c.toNat - 48), s.dropWhile Char.isDigit)

/-- The fraction part of a number: its digits, or nothing if no digit follows the point. -/
def readFraction : List Char → Option (List Nat) × List Char
  | '.' :: rest => match spanDigits rest with
    | ([], _) => (none, '.' :: rest)
    | (ds, rest) => (some ds, rest)
  | rest => (none, rest)

/-- The exponent part of a number, or nothing if no digit follows. -/
def readExponent : List Char → Option Int × List Char
  | c :: rest =>
    if c = 'e' || c = 'E' then
      let (negative, digits) := Number.takeSign rest
      match spanDigits digits with
      | ([], _) => (none, c :: rest)
      | (ds, rest) =>
        (some (if negative then -(Text.ofDigits ds : Int) else Text.ofDigits ds), rest)
    else (none, c :: rest)
  | [] => (none, [])

/-- The whole part of a number: a zero, or digits that start with another one. -/
def readWhole : List Char → Option (List Nat × List Char)
  | '0' :: rest => some ([0], rest)
  | s => match spanDigits s with
    | ([], _) => none
    | (ds, rest) => some (ds, rest)

/-- A number. With a limit, integers of more digits are refused. -/
def readNumber (limit : Option Nat) (s : List Char) : Except Stop (Value × List Char) :=
  let (negative, body) := match s with
    | '-' :: rest => (true, rest)
    | _ => (false, s)
  match readWhole body with
  | none => .error (.before s.length)
  | some (whole, rest) =>
    let (fraction, rest) := readFraction rest
    let (exponent, rest) := readExponent rest
    match fraction, exponent with
    | none, none =>
      if limit.any (· < whole.length) then .error .longInteger
      else
        let n : Int := Text.ofDigits whole
        .ok (.int (if negative then -n else n), rest)
    | _, _ =>
      let ds := fraction.getD []
      .ok (.float (Binary64.ofDecimal negative (Text.ofDigits (whole ++ ds))
        (exponent.getD 0 - ds.length)), rest)

/-! ## Values -/

/-- The value of a word or a number. -/
def readScalar (limit : Option Nat) : List Char → Except Stop (Value × List Char)
  | 'n' :: 'u' :: 'l' :: 'l' :: rest => .ok (.null, rest)
  | 't' :: 'r' :: 'u' :: 'e' :: rest => .ok (.bool true, rest)
  | 'f' :: 'a' :: 'l' :: 's' :: 'e' :: rest => .ok (.bool false, rest)
  | 'N' :: 'a' :: 'N' :: rest => .ok (.float .nan, rest)
  | 'I' :: 'n' :: 'f' :: 'i' :: 'n' :: 'i' :: 't' :: 'y' :: rest =>
    .ok (.float (.infinite false), rest)
  | '-' :: 'I' :: 'n' :: 'f' :: 'i' :: 'n' :: 'i' :: 't' :: 'y' :: rest =>
    .ok (.float (.infinite true), rest)
  | s => readNumber limit s

/-- The key of an entry and the colon after it. -/
def readKey : List Char → Except Stop (String × List Char)
  | [] => .error (.before 0)
  | c :: rest =>
    if c = Text.doubleQuote then do
      let (key, rest) ← readString rest
      match skip rest with
      | ':' :: rest => return (key, skip rest)
      | rest => throw (.before rest.length)
    else .error (.before (rest.length + 1))

mutual

/-- One value at the start of a text. The number bounds the recursion. -/
def readValue : Nat → Limits → List Char → Except Stop (Value × List Char)
  | 0, _, s => .error (.before s.length)
  | fuel + 1, limits, '[' :: rest =>
    match limits.inside, skip rest with
    | none, _ => .error .tooDeep
    | some _, ']' :: rest => .ok (.list [], rest)
    | some limits, rest => (readItems fuel limits rest).map fun r => (.list r.1, r.2)
  | fuel + 1, limits, '\x7b' :: rest =>
    match limits.inside, skip rest with
    | none, _ => .error .tooDeep
    | some _, '\x7d' :: rest => .ok (.map [], rest)
    | some limits, rest =>
      (readEntries fuel limits rest).map fun r => (.map (Assoc.ofPairs r.1), r.2)
  | _ + 1, _, '\x22' :: rest =>
    (readString rest).map fun r => (.text r.1, r.2)
  | _ + 1, limits, s => readScalar limits.digits s

/-- The items of a list up to its closing bracket; there is at least one. -/
def readItems : Nat → Limits → List Char → Except Stop (List Value × List Char)
  | 0, _, s => .error (.before s.length)
  | fuel + 1, limits, s => do
    let (v, rest) ← readValue fuel limits s
    match skip rest with
    | ']' :: rest => return ([v], rest)
    | ',' :: rest =>
      let (vs, rest) ← readItems fuel limits (skip rest)
      return (v :: vs, rest)
    | rest => throw (.before rest.length)

/-- The entries of a mapping up to its closing brace; there is at least one. -/
def readEntries : Nat → Limits → List Char → Except Stop (List (String × Value) × List Char)
  | 0, _, s => .error (.before s.length)
  | fuel + 1, limits, s => do
    let (key, rest) ← readKey s
    let (v, rest) ← readValue fuel limits rest
    match skip rest with
    | '\x7d' :: rest => return ([(key, v)], rest)
    | ',' :: rest =>
      let (es, rest) ← readEntries fuel limits (skip rest)
      return ((key, v) :: es, rest)
    | rest => throw (.before rest.length)

end

/-! ## Texts -/

/-- Some characters that are one value, with white space around it. -/
def decodeChars (limits : Limits) (s : List Char) : Except Fault Value :=
  let at_ (left : Nat) : Fault := .unexpected (s.length - left)
  match readValue (2 * s.length + 1) limits (skip s) with
  | .error (.before left) => .error (at_ left)
  | .error .longInteger => .error .longInteger
  | .error .tooDeep => .error .tooDeep
  | .ok (v, rest) => match skip rest with
    | [] => .ok v
    | rest => .error (at_ rest.length)

/-- A text that is one value. A byte order mark is not part of one. -/
def decodeWith (limits : Limits) (s : String) : Except Fault Value :=
  match s.toList with
  | '\uFEFF' :: _ => .error (.unexpected 0)
  | cs => decodeChars limits cs

/-- A text that is one value, within the limits. -/
def decode (s : String) : Except Fault Value := decodeWith .standard s

/-- Bytes that are one value, within the limits. Their zeros show how they encode a text, and a byte
order mark in front of UTF-8 does not count. -/
def decodeBytes (bytes : ByteArray) : Except Fault Value :=
  match Text.decode bytes with
  | some cs => decodeChars .standard cs
  | none => .error .notText

end SymbolSieve.Json
