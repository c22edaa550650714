import ChatDice.Log.Record
import ChatDice.Text.Json.Shown
import ChatDice.Validation

/-!
# ChatDice.Settings.Basic — settings and what may be wrong with them

Settings say where the program runs, what it writes to its log, and how it rolls dice. Settings
that cannot be loaded are worded in two ways: `summary` has all issues on one line, `report` counts
them, gives two lines to each and shows the values that were given.
-/

namespace ChatDice

/-- Where the program runs. -/
inductive Deployment where
  | development
  | production
deriving DecidableEq, Repr

namespace Deployment

/-- The word for a deployment. -/
def name : Deployment → String
  | development => "development"
  | production => "production"

/-- All deployments. -/
def all : List Deployment := [development, production]

/-- The deployment of a word. -/
def ofName? (s : String) : Option Deployment :=
  all.find? fun d => d.name == s

end Deployment

/-- The settings of the dice. -/
structure DiceSettings where
  /-- The name of the game. -/
  gameSystem : LooseText
  /-- The seed of the random source; without one it is left to chance. -/
  seed : Option Int
  /-- How many dice one command may roll. -/
  maxRands : Int
deriving DecidableEq, Repr

/-- All settings. -/
structure Settings where
  environment : Deployment
  logLevel : Log.Level
  logFile : Option String
  dice : DiceSettings
deriving DecidableEq, Repr

/-- Why settings cannot be loaded. -/
inductive SettingsError where
  /-- The dice settings of a source are not JSON. -/
  | unreadable (source : String)
  /-- The file of variables is at the home of someone who is not known. -/
  | unknownHome
  /-- Values that do not fit the fields of the settings with this title. -/
  | invalid (title : String) (issues : List Issue)
deriving Repr

/-! ## Wording -/

/-- The longest part of a text from its start that has no more than so many bytes. -/
def takeBytes : Nat → List Char → List Char
  | _, [] => []
  | room, c :: rest => if c.utf8Size ≤ room then c :: takeBytes (room - c.utf8Size) rest else []

/-- A text of more than fifty bytes is shown by its start and its end. -/
def shortened (s : String) : String :=
  if s.utf8ByteSize ≤ 50 then s
  else
    let cs := s.toList
    String.ofList (takeBytes 25 cs) ++ "..." ++ String.ofList (takeBytes 24 cs.reverse).reverse

/-- A step of a path. A step that has points in it stands between grave accents, so that it is not
taken for several. -/
def reportedStep (step : String) : String :=
  if '.' ∈ step.toList then "\x60" ++ step ++ "\x60" else step

/-- The issue on two lines. -/
def Issue.report (i : Issue) : String :=
  ".".intercalate (i.path.map reportedStep) ++ "\n  " ++ i.complaint.message ++
    " [type=" ++ i.complaint.code ++ ", input_value=" ++ shortened i.given.shown ++
    ", input_type=" ++ i.given.typeName ++ "]"

namespace SettingsError

/-- The error on one line. -/
def summary : SettingsError → String
  | unreadable source => s!"error parsing value for field \"dice\" from source \"{source}\""
  | unknownHome => "Could not determine home directory."
  | invalid _ issues => "; ".intercalate (issues.map Issue.summary)

/-- The error as it is reported, with the number of issues. -/
def report : SettingsError → String
  | invalid title issues =>
    let plural := if issues.length = 1 then "" else "s"
    let heading := s!"{issues.length} validation error{plural} for {title}"
    "\n".intercalate (heading :: issues.map Issue.report)
  | e => e.summary

end SettingsError

end ChatDice
