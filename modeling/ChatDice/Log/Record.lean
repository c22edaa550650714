/-!
# ChatDice.Log.Record — log records

Evaluating a command leaves log records behind. A record is data: the place of the program that
leaves it, how severe it is and what is said. Where records go, and from which severity on, is
decided when they are written out; each of them then has its own time.

* `Level` — the five levels in the order of their severity;
* `Site` — a place of the program that leaves records;
* `Timed.line`, `Timed.coloredLine` — the two written forms. A file shows the function and the line
  that a record is from; a terminal does not, and has the level's name between colour codes.
-/

namespace ChatDice.Log

/-! ## Levels -/

/-- The severity of a record. -/
inductive Level where
  | debug
  | info
  | warning
  | error
  | critical
deriving DecidableEq, Repr

namespace Level

/-- All levels, the mildest first. -/
def all : List Level := [.debug, .info, .warning, .error, .critical]

/-- The place of a level in the order of severity. -/
def severity : Level → Nat
  | .debug => 10
  | .info => 20
  | .warning => 30
  | .error => 40
  | .critical => 50

/-- The level's name, in capitals. -/
def name : Level → String
  | .debug => "DEBUG"
  | .info => "INFO"
  | .warning => "WARNING"
  | .error => "ERROR"
  | .critical => "CRITICAL"

/-- The level of a name; names are in capitals. -/
def ofName? (s : String) : Option Level :=
  all.find? fun l => l.name == s

/-- A level's name is read as that level. -/
theorem ofName?_name (l : Level) : ofName? l.name = some l := by
  cases l <;> decide

/-- The terminal's code for the colour of a level. -/
def color : Level → String
  | .debug => "36"
  | .info => "32"
  | .warning => "33"
  | .error => "31"
  | .critical => "35"

/-- The level's name between the codes that colour it and that end the colour. -/
def coloredName (l : Level) : String :=
  "\x1b[" ++ l.color ++ "m" ++ l.name ++ "\x1b[0m"

end Level

/-! ## Records -/

/-- A place of the program that leaves records: the logger that speaks there, and the function and
the line in which it does. -/
structure Site where
  logger : String
  function : String
  line : Nat
deriving DecidableEq, Repr

/-- The function and the line. -/
def Site.place (s : Site) : String :=
  s.function ++ ":" ++ toString s.line

/-- What the program has to say at one of its places. -/
structure Record where
  site : Site
  level : Level
  message : String
deriving DecidableEq, Repr

/-- A record with the time at which it was left. -/
structure Timed where
  time : String
  record : Record
deriving DecidableEq, Repr

namespace Timed

/-- The record as it stands in a file. -/
def line (t : Timed) : String :=
  " - ".intercalate [t.time, t.record.site.logger, t.record.level.name, t.record.site.place,
    t.record.message] ++ "\n"

/-- The record as it stands on a terminal. -/
def coloredLine (t : Timed) : String :=
  " - ".intercalate [t.time, t.record.site.logger, t.record.level.coloredName, t.record.message] ++
    "\n"

end Timed

/-- Records with their times. The clock tells the time of every record, counted from zero, be it
written in the end or not. -/
def timed (clock : Nat → String) (records : List Record) : List Timed :=
  records.mapIdx fun n r => ⟨clock n, r⟩

/-! ## Loggers -/

/-- The logger above all others. -/
def rootLogger : String := "njdice"

/-- The full name of a logger: every logger stands under the root logger. -/
def loggerName (name : String) : String :=
  if name = rootLogger ∨ (rootLogger ++ ".").isPrefixOf name then name
  else rootLogger ++ "." ++ name

end ChatDice.Log
