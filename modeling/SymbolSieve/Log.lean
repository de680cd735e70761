/-!
# Log lines

What the library reports as it works: a level, the part of the library that reports, and a message.
Lines are collected in the order in which they arise.
-/

set_option autoImplicit false

namespace SymbolSieve

/-- How serious a log line is. -/
inductive LogLevel where
  | debug | info | warning | error
  deriving DecidableEq, Repr

/-- The name of a level. -/
def LogLevel.name : LogLevel → String
  | debug => "DEBUG"
  | info => "INFO"
  | warning => "WARNING"
  | error => "ERROR"

/-- A log line. -/
structure LogLine where
  level : LogLevel
  source : String
  message : String
  deriving DecidableEq, Repr

/-- The name under which all parts of the library report. -/
def rootLogger : String := "greppy_filters"

/-- The written form of a log line. -/
def LogLine.text (l : LogLine) : String :=
  l.level.name ++ " " ++ rootLogger ++ "." ++ l.source ++ " " ++ l.message

end SymbolSieve
