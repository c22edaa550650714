import ChatDice.CommandLine.Arguments
import ChatDice.Game.Registry
import ChatDice.Random.Twister
import ChatDice.Settings.Loading

/-!
# ChatDice.CommandLine.Run — running the program

A run is a function: from the arguments and what surrounds the program to what the program prints
and leaves behind. Results go to the standard output; log records go to the standard error output
and, if the settings name a file, in another form to that file as well. The level of the settings
decides which records are written, and decides nothing else.

* `runCommand`, `rollCommands`, `shellLines` — commands evaluated one after another;
* `buildSystem` — the game and the roller that the settings and the arguments choose;
* `perform` — one command of the program, as a `Report`;
* `run` — the whole program.
-/

namespace ChatDice.CommandLine

/-! ## Places in the log -/

/-- A place of this module in the log. -/
def site (function : String) (line : Nat) : Log.Site :=
  ⟨"njdice.__main__", function, line⟩

/-- Where a command that asks for too much is logged. -/
def siteOfFailure : Log.Site := site "run_command" 135

/-- Where a command that is not known is logged. -/
def siteOfUnknown : Log.Site := site "run_command" 139

/-- Where a roll for which no game can be set up is logged. -/
def siteOfRoll : Log.Site := site "cmd_roll" 154

/-- Where a shell for which no game can be set up is logged. -/
def siteOfShell : Log.Site := site "cmd_shell" 168

/-- Where a shell is greeted. -/
def siteOfGreeting : Log.Site := site "cmd_shell" 174

/-- Where a game that there is no help for is logged. -/
def siteOfHelp : Log.Site := site "cmd_help" 193

/-- Where a line of the settings is logged. -/
def siteOfSetting (n : Nat) : Log.Site := site "cmd_config" (212 + n)

/-- Where the level of the log is logged. -/
def siteOfLevel : Log.Site := ⟨Log.rootLogger, "setup_logging", 85⟩

/-- Where the file of the log is logged. -/
def siteOfFile : Log.Site := ⟨Log.rootLogger, "setup_logging", 87⟩

/-! ## Evaluating commands -/

section
variable {σ : Type} [DieSource σ]

/-- The line that shows a result. -/
def resultLine (result : CommandResult) : String :=
  (if result.secret then "[secret] " else "") ++ result.text ++ "\n"

/-- Evaluates one command and gives the line to print, if it has a result. A command that asks for
too much is reported like one that is not known; the commands after it are evaluated all the same.
Other faults end the run. -/
def runCommand (sys : GameSystem) (command : String) : Rolling σ (Option String) := fun r =>
  match sys.eval command r with
  | .ok (some result) r => .ok (some (resultLine result)) r
  | .ok none r => (do
      note .error siteOfUnknown s!"Unknown command: {Text.quote command}"
      return none) r
  | .error fault r =>
    if fault.isExcess then (do
      note .error siteOfFailure s!"{Text.quote command} failed: {fault.message}"
      return none) r
    else .error fault r

/-- Evaluates commands in their order. -/
def rollCommands (sys : GameSystem) : List String → Rolling σ (List (Option String))
  | [] => pure []
  | command :: commands => do
    let line ← runCommand sys command
    return line :: (← rollCommands sys commands)

/-- The words that end a shell, in small letters. -/
def exitWords : List String := ["quit", "exit"]

/-- Evaluates the commands on lines of input, up to a line that ends the shell. Lines may have
blanks around the command; lines of blanks are passed over. -/
def shellLines (sys : GameSystem) : List String → Rolling σ (List (Option String))
  | [] => pure []
  | line :: lines => do
    let command := Text.trim line
    if command = "" then shellLines sys lines
    else if command.toLower ∈ exitWords then return []
    else do
      let shown ← runCommand sys command
      return shown :: (← shellLines sys lines)

end

/-! ## Choosing a game -/

/-- Why no game can be set up. -/
inductive SetupError where
  | unknownSystem (e : UnknownSystem)
  | limitNotPositive (e : LimitNotPositive)
deriving DecidableEq, Repr

/-- The error in words. -/
def SetupError.message : SetupError → String
  | unknownSystem e => e.message
  | limitNotPositive e => e.message

/-- The name of the game: the argument, unless it is empty, and else the setting. -/
def chosenSystem (argument : Option String) (settings : Settings) : LooseText :=
  match argument with
  | some id => if id = "" then settings.dice.gameSystem else .text id
  | none => settings.dice.gameSystem

/-- The seed: the argument, else the setting, else chance. -/
def chosenSeed (argument : Option Int) (settings : Settings) (chance : Int) : Int :=
  argument.getD (settings.dice.seed.getD chance)

/-- The game and the roller that the arguments and the settings choose. -/
def buildSystem (system : Option String) (seed : Option Int) (settings : Settings)
    (chance : Int) : Except SetupError (GameSystem × Roller Twister) :=
  match GameSystem.find (chosenSystem system settings) with
  | .error e => .error (.unknownSystem e)
  | .ok sys =>
    match Roller.ofSource (Twister.ofSeed (chosenSeed seed settings chance))
        settings.dice.maxRands with
    | .error e => .error (.limitNotPositive e)
    | .ok roller => .ok (sys, roller)

/-! ## Commands of the program -/

/-- What a command of the program comes to. -/
structure Report where
  exit : Nat := 0
  stdout : String := ""
  records : List Log.Record := []
deriving DecidableEq, Repr

namespace Report

/-- A command for which no game can be set up. -/
def ofSetupError (site : Log.Site) (e : SetupError) : Report :=
  { exit := 1, records := [{ site, level := .error, message := e.message }] }

/-- What evaluating commands comes to; `exit` judges the lines shown. A fault that ends the
evaluation is no log record; with the games that there are, no fault does. -/
def ofEvaluation {σ : Type} (exit : List (Option String) → Nat) :
    EStateM.Result Fault (Roller σ) (List (Option String)) → Report
  | .ok shown r =>
    { exit := exit shown, stdout := String.join (shown.filterMap id), records := r.log.toList }
  | .error _ r => { exit := 1, records := r.log.toList }

end Report

/-- Evaluates the commands given as arguments. The run succeeds if every command has a result. -/
def performRoll (system : Option String) (seed : Option Int) (commands : List String)
    (settings : Settings) (chance : Int) : Report :=
  match buildSystem system seed settings chance with
  | .error e => .ofSetupError siteOfRoll e
  | .ok (sys, roller) =>
    .ofEvaluation (fun shown => if shown.all Option.isSome then 0 else 1)
      (rollCommands sys commands roller)

/-- Evaluates the commands on the lines of the input, behind a greeting. -/
def performShell (system : Option String) (seed : Option Int) (input : String)
    (settings : Settings) (chance : Int) : Report :=
  match buildSystem system seed settings chance with
  | .error e => .ofSetupError siteOfShell e
  | .ok (sys, roller) =>
    let shell : Rolling Twister (List (Option String)) := do
      note .info siteOfGreeting s!"{sys.name} ready. Type 'quit' to exit."
      shellLines sys (Text.lines input)
    .ofEvaluation (fun _ => 0) (shell roller)

/-- Shows the commands of a game. -/
def performHelp (system : Option String) (settings : Settings) : Report :=
  match GameSystem.find (chosenSystem system settings) with
  | .error e => .ofSetupError siteOfHelp (.unknownSystem e)
  | .ok sys => { stdout := s!"=== {sys.name} ===\n\n" ++ sys.help ++ "\n" }

/-- Lists the games. -/
def performSystems : Report :=
  { stdout := String.join (GameSystem.registered.map fun sys => s!"{sys.id}\t{sys.name}\n") }

/-- Shows the settings. -/
def performConfig (settings : Settings) : Report :=
  let file := settings.logFile.getD "None (console only)"
  let seed := (settings.dice.seed.map toString).getD "None (random)"
  let messages := [
    "\n=== njdice Configuration ===\n",
    s!"Environment: {settings.environment.name}",
    s!"Log Level: {settings.logLevel.name}",
    s!"Log File: {file}",
    s!"\nGame System: {settings.dice.gameSystem.display}",
    s!"Seed: {seed}",
    s!"Max Dice Per Command: {settings.dice.maxRands}"]
  { records := messages.mapIdx fun n message =>
      { site := siteOfSetting n, level := .info, message } }

/-- Does what the program is asked to do. -/
def perform (command : Option Command) (settings : Settings) (input : String) (chance : Int) :
    Report :=
  match command with
  | some (.roll system seed commands) => performRoll system seed commands settings chance
  | some (.shell system seed) => performShell system seed input settings chance
  | some (.help system) => performHelp system settings
  | some .systems => performSystems
  | some .config => performConfig settings
  | none => { stdout := Usage.program }

/-! ## Runs -/

/-- What surrounds a run. -/
structure Surroundings where
  env : Environment
  files : Files
  /-- The standard input. -/
  input : String
  /-- The seed of runs that are given none. -/
  chance : Int
  /-- The times of the log records of the run, one after another. -/
  clock : Nat → String

/-- What a run prints, and the text that it writes behind the end of the log file, if it has one. -/
structure Outcome where
  exit : Nat
  stdout : String := ""
  stderr : String := ""
  logged : Option (String × String) := none
deriving DecidableEq, Repr

/-- The files after a run. -/
def Outcome.filesAfter (o : Outcome) (files : Files) : Files :=
  match o.logged with
  | some (path, text) => files.append path text
  | none => files

/-- The records that announce where log records go. -/
def loggingRecords (settings : Settings) : List Log.Record :=
  ⟨siteOfLevel, .debug, s!"Logging initialized - Level: {settings.logLevel.name}"⟩ ::
    (settings.logFile.map fun path => ⟨siteOfFile, .debug, s!"Logging to file: {path}"⟩).toList

/-- The records that are severe enough to be written. -/
def visible (level : Log.Level) (records : List Log.Timed) : List Log.Timed :=
  records.filter fun t => level.severity ≤ t.record.level.severity

/-- All records of a run, those about the log first, with their times. -/
def allRecords (clock : Nat → String) (settings : Settings) (report : Report) : List Log.Timed :=
  Log.timed clock (loggingRecords settings ++ report.records)

/-- Writes a report out under the settings. -/
def deliver (clock : Nat → String) (settings : Settings) (report : Report) : Outcome :=
  let written := visible settings.logLevel (allRecords clock settings report)
  { exit := report.exit
    stdout := report.stdout
    stderr := String.join (written.map Log.Timed.coloredLine)
    logged := settings.logFile.map (·, String.join (written.map Log.Timed.line)) }

/-- The settings with the level that the arguments ask for. -/
def withLevel (level : Option Log.Level) (settings : Settings) : Settings :=
  { settings with logLevel := level.getD settings.logLevel }

/-- Runs the program. -/
def run (args : List String) (around : Surroundings) : Outcome :=
  match parseArguments args with
  | .error (.shown text) => { exit := 0, stdout := text }
  | .error (.misuse who message) => { exit := 2, stderr := s!"{who}: error: {message}\n" }
  | .ok arguments =>
    let path := arguments.envFile.getD Settings.defaultFile
    let outcome : Outcome :=
      match Settings.loadFrom around.env around.files path with
      | .error e => { exit := 1, stderr := s!"Error loading settings: {e.report}\n" }
      | .ok settings =>
        -- The level is the only setting that an argument replaces; it decides what is written.
        let settings := withLevel arguments.logLevel settings
        deliver around.clock settings
          (perform arguments.command settings around.input around.chance)
    { outcome with
      stderr := Settings.warnings around.env around.files path ++ outcome.stderr }

end ChatDice.CommandLine
