import SymbolSieve.Value.Basic
import SymbolSieve.Text.Digit

/-!
# Points in time

Time is counted in microseconds from the start of 1970, in UTC, and shown by the Gregorian calendar.

## What is here

* `Civil`: a point in time by the calendar, and `Civil.ofMicros`.
* `stamp`, `compactStamp`: the written forms of a point in time, which has to be within the
  calendar.
* `millis`: whole milliseconds, by floating-point arithmetic on seconds.
* `seconds`: milliseconds as seconds.
-/

set_option autoImplicit false

namespace SymbolSieve.Clock

/-- A point in time by the calendar. -/
structure Civil where
  year : Int
  month : Nat
  day : Nat
  hour : Nat
  minute : Nat
  second : Nat
  micros : Nat
  deriving DecidableEq, Repr

/-- The calendar day that is `days` days after the first of March of the year 0, within its era of
400 years. Years begin in March here, so that a leap day comes last. -/
def dateOfDays (days : Int) : Int × Nat × Nat :=
  let era := days.fdiv 146097
  let dayOfEra := (days.fmod 146097).toNat
  let yearOfEra := (dayOfEra - dayOfEra / 1460 + dayOfEra / 36524 - dayOfEra / 146096) / 365
  let dayOfYear := dayOfEra - (365 * yearOfEra + yearOfEra / 4 - yearOfEra / 100)
  let marchMonth := (5 * dayOfYear + 2) / 153
  let day := dayOfYear - (153 * marchMonth + 2) / 5 + 1
  let month := if marchMonth < 10 then marchMonth + 3 else marchMonth - 9
  let year := yearOfEra + era * 400 + (if month ≤ 2 then 1 else 0)
  (year, month, day)

/-- The calendar form of a point in time. -/
def Civil.ofMicros (us : Int) : Civil :=
  let seconds := us.fdiv 1000000
  let secondOfDay := (seconds.fmod 86400).toNat
  let (year, month, day) := dateOfDays (seconds.fdiv 86400 + 719468)
  { year, month, day
    hour := secondOfDay / 3600
    minute := secondOfDay / 60 % 60
    second := secondOfDay % 60
    micros := (us.fmod 1000000).toNat }

/-- A number with zeros in front, up to a width. -/
def padded (width n : Nat) : String :=
  let ds := Nat.toDigits 10 n
  String.ofList (List.replicate (width - ds.length) '0' ++ ds)

/-- The calendar form of a point in time in the years from 1 to 9999; others have none. -/
def civil (us : Int) : Except ValueFault Civil :=
  let c := Civil.ofMicros us
  if 1 ≤ c.year && c.year ≤ 9999 then .ok c else .error .outOfRange

/-- A point in time with its offset from UTC; the fraction is left out if it is zero. -/
def stamp (us : Int) : Except ValueFault String := do
  let c ← civil us
  return padded 4 c.year.toNat ++ "-" ++ padded 2 c.month ++ "-" ++ padded 2 c.day ++ "T" ++
    padded 2 c.hour ++ ":" ++ padded 2 c.minute ++ ":" ++ padded 2 c.second ++
    (if c.micros = 0 then "" else "." ++ padded 6 c.micros) ++ "+00:00"

/-- A point in time as it stands in file names; the year has no zeros in front. -/
def compactStamp (us : Int) : Except ValueFault String := do
  let c ← civil us
  return padded 1 c.year.toNat ++ padded 2 c.month ++ padded 2 c.day ++ "_" ++
    padded 2 c.hour ++ padded 2 c.minute ++ padded 2 c.second

/-- A point in time in milliseconds: the seconds as a floating-point number, times a thousand,
without the fraction. -/
def millis (us : Int) : Except ValueFault Int :=
  let exactly (n : Nat) := Binary64.ofRatio false n 1
  match Binary64.ofInt? us with
  | none => .error .outOfRange
  | some x => .ok ((((x.div (exactly 1000000)).mul (exactly 1000)).truncate?).getD 0)

/-- Milliseconds as seconds. Any number will do, if it is in the range of floating-point numbers. -/
def seconds : Value → Except ValueFault Binary64
  | .int n => ofInt n
  | .bool b => ofInt b.toNat
  | .float x => .ok (x.div (Binary64.ofRatio false 1000 1))
  | _ => .error .wrongKind
where
  /-- The thousandth part of an integer. -/
  ofInt (n : Int) : Except ValueFault Binary64 :=
    match Binary64.ofRatio (n < 0) n.natAbs 1000 with
    | .infinite _ => .error .outOfRange
    | x => .ok x

end SymbolSieve.Clock
