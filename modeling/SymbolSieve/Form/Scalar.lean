import SymbolSieve.Form.Complaint
import SymbolSieve.Number.Reading
import SymbolSieve.Number.Words

/-!
# Reading single values

Texts are only read from texts. Integers and truth values are also read from values that stand for
them: numbers without a fraction, truth values, and texts that spell them.

## What is here

* `text`, `nonEmptyText`, `oneOf`: readers for texts.
* `integer`: a reader for integers, from numbers and from texts.
* `truth`: a reader for truth values.
* `optional`: a reader that also accepts null.
-/

set_option autoImplicit false

namespace SymbolSieve.Form

/-! ## Texts -/

/-- Reads a text. -/
def text : Value → Checked String
  | .text s => .ok s
  | v => .fail .notText v

/-- Reads a text that is not empty. -/
def nonEmptyText (v : Value) : Checked String := do
  let s ← text v
  if s.isEmpty then .fail .shortText v else return s

/-- Reads one of some texts. -/
def oneOf (allowed : List String) (v : Value) : Checked String := do
  let s ← text v
  if allowed.contains s then return s else .fail .otherText v

/-! ## Integers -/

/-- The value of a decimal digit of ASCII. -/
def asciiDigit? (c : Char) : Option Nat :=
  if '0' ≤ c && c ≤ '9' then some (c.toNat - '0'.toNat) else none

/-- Why a text is no integer. -/
inductive IntegerFault where
  | malformed
  | tooLong
  deriving DecidableEq, Repr

/-- A plain integer: perhaps a minus sign, and digits that do not start with a zero unless there is
just one. The minus sign does not count as a digit. -/
def plainInteger (s : List Char) : Except IntegerFault Int :=
  let (negative, digits) := match s with
    | '-' :: rest => (true, rest)
    | _ => (false, s)
  let ds := (digits.takeWhile fun c => (asciiDigit? c).isSome).filterMap asciiDigit?
  let signed : Int := if negative then -(Text.ofDigits ds : Int) else Text.ofDigits ds
  let whole := ds.length = digits.length
  match ds with
  | [] => .error .malformed
  | [0] => if whole then .ok 0 else .error .malformed
  | 0 :: _ => .error .malformed
  | _ =>
    if digitLimit < ds.length then .error .tooLong
    else if whole then .ok signed else .error .malformed

/-- A text without the zeros at its start, which may have underscores between them. What follows
them is a digit, a point or a minus sign; one zero stays before a point and at the end. The first
argument is the character before. -/
def afterZeros (before : Char) : List Char → Option (List Char)
  | [] => some [before]
  | c :: rest =>
    if c = '0' || c = '_' then afterZeros c rest
    else if ('1' ≤ c && c ≤ '9') || c = '-' then some (c :: rest)
    else if c = '.' then some (before :: c :: rest)
    else none

/-- A text without needless zeros at its start; it has to start with a digit. -/
def dropLeadingZeros : List Char → Option (List Char)
  | [] => none
  | '0' :: rest => afterZeros '0' rest
  | c :: rest => if '1' ≤ c && c ≤ '9' then some (c :: rest) else none

/-- A text without a point that only zeros follow, at least one of them, and without those. -/
def dropZeroFraction (s : List Char) : List Char :=
  match s.dropWhile (· != '.') with
  | '.' :: '0' :: rest => if rest.all (· == '0') then s.takeWhile (· != '.') else s
  | _ => s

/-- Whether a text has two underscores next to each other. -/
def hasDoubleUnderscore : List Char → Bool
  | '_' :: '_' :: _ => true
  | _ :: rest => hasDoubleUnderscore rest
  | [] => false

/-- A text without underscores, if none stands at an end or next to another one. -/
def dropUnderscores (s : List Char) : List Char :=
  if s.head? = some '_' || s.getLast? = some '_' || hasDoubleUnderscore s then s
  else s.filter (· != '_')

/-- A text without its sign, and the minus sign if it is one. A minus sign does not follow a plus
sign. -/
def splitSign : List Char → Option (List Char × List Char)
  | '+' :: '-' :: _ => none
  | '+' :: rest => some ([], rest)
  | '-' :: rest => some (['-'], rest)
  | s => some ([], s)

/-- A text that spells an integer, in its plain form. There may be blanks around it, a sign, zeros
at the start, underscores between digits, and zeros behind a point. -/
def cleaned (s : List Char) : Option (List Char) := do
  let (sign, rest) ← splitSign (Text.trimBy Number.isMargin s)
  let rest ← dropLeadingZeros rest
  return sign ++ dropUnderscores (dropZeroFraction rest)

/-- Reads an integer from a text. -/
def spelledInteger (s : String) : Checked Int :=
  let unread (kind : ComplaintKind) : Checked Int := .fail kind (.text s)
  match plainInteger s.toList with
  | .ok n => .ok n
  | .error .tooLong => unread .largeInteger
  | .error .malformed => match (cleaned s.toList).map plainInteger with
    | some (.ok n) => .ok n
    | _ => unread .unreadInteger

/-- Whether a floating-point number is the integer that it is cut off to. -/
def isWhole (x : Binary64) (n : Int) : Bool :=
  x.compare? (.finite (n < 0) n.natAbs 0) == some .eq

/-- Reads an integer from a floating-point number, which has to be of less than 64 bits. -/
def wholeNumber (x : Binary64) : Checked Int :=
  let refused (kind : ComplaintKind) : Checked Int := .fail kind (.float x)
  match x.truncate? with
  | none => refused .notFinite
  | some n =>
    if !isWhole x n then refused .fraction
    else if n.natAbs < Nat.pow 2 63 then .ok n
    else refused .largeInteger

/-- Reads an integer. -/
def integer : Value → Checked Int
  | .int n => .ok n
  | .bool b => .ok b.toNat
  | .float x => wholeNumber x
  | .text s => spelledInteger s
  | v => .fail .notInteger v

/-! ## Truth values -/

/-- The words for true and for false, in lower case. -/
def trueWords : List String := ["1", "on", "t", "true", "y", "yes"]

def falseWords : List String := ["0", "off", "f", "false", "n", "no"]

/-- The truth value that an integer stands for. -/
def truthOfInteger? (n : Int) : Option Bool :=
  if n = 1 then some true else if n = 0 then some false else none

/-- The truth value that a word stands for, whatever its case in ASCII. -/
def truthOfWord? (s : String) : Option Bool :=
  let word := String.ofList (s.toList.map Char.toLower)
  if trueWords.contains word then some true
  else if falseWords.contains word then some false
  else none

/-- Reads a truth value. A number has to be a whole one of 64 bits to be tried. -/
def truth (v : Value) : Checked Bool :=
  let read : Option Bool → Checked Bool
    | some b => .ok b
    | none => .fail .unreadTruth v
  match v with
  | .bool b => .ok b
  | .int n => if Number.fitsSigned n then read (truthOfInteger? n) else .fail .notTruth v
  | .float x => match wholeNumber x with
    | .ok n => read (truthOfInteger? n)
    | .error _ => .fail .notTruth v
  | .text s => read (truthOfWord? s)
  | _ => .fail .notTruth v

/-! ## Null -/

/-- Reads null, or what another reader reads. -/
def optional {α : Type} (read : Value → Checked α) : Value → Checked (Option α)
  | .null => .ok none
  | v => (read v).map some

end SymbolSieve.Form
