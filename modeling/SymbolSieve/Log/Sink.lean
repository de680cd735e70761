import SymbolSieve.Log
import SymbolSieve.Text.Split
import SymbolSieve.Value.Shown

/-!
# Written logs

A program that uses the library can have its log written to the console and to a file. What is
written depends on a level, which has a name, and each line shows the time, the level, the source
and the message.

## What is here

* `Severity.name`, `Severity.ofName?`: levels are numbers, and these give and read their names.
* `Sink`: what is written, and `Sink.ofLevel`.
* `Sink.written`: the text of some messages.
* `Log.masked`: a written text without its times.
-/

set_option autoImplicit false

namespace SymbolSieve

/-! ## Levels -/

namespace Severity

/-- The levels with the names that lines show. -/
def shownNames : List (Int × String) :=
  [(50, "CRITICAL"), (40, "ERROR"), (30, "WARNING"), (20, "INFO"), (10, "DEBUG"), (0, "NOTSET")]

/-- Further names of levels. -/
def otherNames : List (String × Int) := [("FATAL", 50), ("WARN", 30)]

/-- The name of a level; a level without a name is shown as a number. -/
def name (level : Int) : String :=
  (shownNames.lookup level).getD ("Level " ++ Text.intText level)

/-- A character in upper case, as far as the names of levels need it. Outside of ASCII the dotless i
and the long s have capitals in it, and so have two characters that join an s and a t. -/
def upper (c : Char) : List Char :=
  if c = Char.ofNat 0x131 then ['I']
  else if c = Char.ofNat 0x17F then ['S']
  else if c = Char.ofNat 0xFB05 || c = Char.ofNat 0xFB06 then ['S', 'T']
  else [c.toUpper]

/-- A name of a level as it is looked up, in upper case. -/
def spelling (text : String) : String := String.ofList (text.toList.flatMap upper)

/-- The level with a name in any case. -/
def ofName? (text : String) : Option Int :=
  match shownNames.find? (·.2 == spelling text) with
  | some (level, _) => some level
  | none => otherNames.lookup (spelling text)

/-- Why a name is not that of a level. Two names belong to other settings of logs, the form of a
line and the styles of forms, whose values are no levels; any other name is unknown. -/
def refusal (text : String) : ValueFault :=
  if spelling text = "BASIC_FORMAT" then .malformed
  else if spelling text = "_STYLES" then .wrongKind
  else .noAttribute

/-- The level that holds where none is set. -/
def fallback : Int := 30

end Severity

/-! ## Messages -/

/-- A message: the part of the program that reports, if it is not the whole one, a level and what is
reported. -/
structure LogMessage where
  source : Option String
  level : Int
  content : Value

/-- The full name of the source of a message. -/
def LogMessage.fullSource (m : LogMessage) : String :=
  match m.source with
  | none => rootLogger
  | some source => if source == rootLogger then rootLogger else rootLogger ++ "." ++ source

/-! ## Sinks -/

/-- Where lines are written to, from a level on. Level zero means that no level is set. -/
structure Sink where
  level : Int
  deriving DecidableEq, Repr

namespace Sink

/-- The sink for the name of a level. -/
def ofName (name : String) : Except ValueFault Sink :=
  match Severity.ofName? name with
  | some level => .ok ⟨level⟩
  | none => .error (Severity.refusal name)

/-- The sink for the name of a level that is given as a value, which has to be a text. -/
def ofLevel : Value → Except ValueFault Sink
  | .text name => ofName name
  | v => .error (v.lackOf "upper")

/-- Whether a message is written. -/
def accepts (s : Sink) (m : LogMessage) : Bool :=
  (if s.level = 0 then Severity.fallback else s.level) ≤ m.level

/-- A text with blanks behind it, up to a width. -/
def padded (width : Nat) (s : String) : String :=
  s ++ String.ofList (List.replicate (width - s.length) ' ')

/-- The line for a message at a time. What has no text gives no line. -/
def line (time : String) (m : LogMessage) : String :=
  match m.content.shown with
  | .error _ => ""
  | .ok text =>
    time ++ " | " ++ padded 8 (Severity.name m.level) ++ " | " ++ m.fullSource ++ " | " ++ text ++
      "\n"

/-- What is written for some messages. -/
def written (s : Sink) (time : String) (ms : List LogMessage) : String :=
  String.join ((ms.filter s.accepts).map (line time))

end Sink

/-! ## Reading logs -/

namespace Log

/-- The form of a time in a log, in which a zero stands for a digit. -/
def timeForm : List Char := "0000-00-00 00:00:00".toList

/-- Whether a text has a form: a digit where the form has a zero, and otherwise the same character.
-/
def hasForm : List Char → List Char → Bool
  | [], [] => true
  | '0' :: form, c :: rest => (Text.digit? c).isSome && hasForm form rest
  | f :: form, c :: rest => f == c && hasForm form rest
  | _, _ => false

/-- A line with a mask in place of the time at its start. -/
def maskedLine (mask : List Char) (line : List Char) : List Char :=
  if hasForm timeForm (line.take timeForm.length) then mask ++ line.drop timeForm.length else line

/-- A text with a mask in place of the times at the starts of its lines. -/
def masked (mask text : String) : String :=
  String.ofList
    (List.intercalate ['\n'] ((Text.splitAt '\n' text.toList).map (maskedLine mask.toList)))

end Log

end SymbolSieve
