/-
MagnumClient.Log — log lines and which of them are printed.

A line names its level in capitals, the component it comes from in brackets if
it has one, and its message. Levels are ordered by severity; a line is printed
iff it is at least as severe as the logger's level. Only four of the levels can
be chosen for the logger.
-/
import MagnumClient.Json.Basic

namespace MagnumClient.Log

/-- How severe a line is, most severe first. -/
inductive Level where
  | error
  | warn
  | info
  | http
  | verbose
  | debug
  | silly
deriving Repr, DecidableEq

namespace Level

/-- All levels, most severe first. -/
def all : List Level := [error, warn, info, http, verbose, debug, silly]

/-- The name of a level in lower case. -/
def name : Level → String
  | error => "error"
  | warn => "warn"
  | info => "info"
  | http => "http"
  | verbose => "verbose"
  | debug => "debug"
  | silly => "silly"

/-- The name of a level in capitals. -/
def capitals : Level → String
  | error => "ERROR"
  | warn => "WARN"
  | info => "INFO"
  | http => "HTTP"
  | verbose => "VERBOSE"
  | debug => "DEBUG"
  | silly => "SILLY"

/-- The level of a name. -/
def ofName? (name : String) : Option Level := all.find? (·.name == name)

/-- The place of a level in the order of severity; zero is most severe. -/
def rank : Level → Nat
  | error => 0
  | warn => 1
  | info => 2
  | http => 3
  | verbose => 4
  | debug => 5
  | silly => 6

/-- Whether a logger at level `threshold` prints a line of this level. -/
def printedAt (level threshold : Level) : Bool := level.rank ≤ threshold.rank

end Level

/-- The names of the levels a logger can be set to. -/
def configurable : List String := ["error", "warn", "info", "debug"]

/-- Whether a value names a level that a logger can be set to. -/
def isLevelName : Json → Bool
  | .str s => configurable.contains s
  | _ => false

/-- A line of a log. -/
structure Entry where
  level : Level
  label : Option String
  message : String
deriving Repr, DecidableEq

/-- The text of a line. -/
def Entry.text (e : Entry) : String :=
  e.level.capitals ++ (match e.label with | some l => " [" ++ l ++ "]" | none => "") ++ ": " ++
    e.message

/-- The lines that a logger at level `threshold` prints. -/
def printed (threshold : Level) (entries : List Entry) : List String :=
  (entries.filter (·.level.printedAt threshold)).map Entry.text

end MagnumClient.Log
