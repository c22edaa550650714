import ChatDice.CommandLine.Usage
import ChatDice.CommandLine.Words
import ChatDice.Log.Record
import ChatDice.Settings.FilePath
import ChatDice.Text.Integer

/-!
# ChatDice.CommandLine.Arguments — what the program is asked to do

The program has options of its own, a command, and the options of that command. Arguments are acted
upon in their order, so that a help text is shown unless something in front of it is wrong.
Arguments that nobody knows are reported last, by the program itself.
-/

namespace ChatDice.CommandLine

/-- What the program is asked to do. -/
inductive Command where
  | roll (system : Option String) (seed : Option Int) (commands : List String)
  | shell (system : Option String) (seed : Option Int)
  | help (system : Option String)
  | systems
  | config
deriving DecidableEq, Repr

/-- The arguments of the program. Without a command the program shows how it is used. -/
structure Arguments where
  envFile : Option String := none
  logLevel : Option Log.Level := none
  command : Option Command := none
deriving DecidableEq, Repr

/-- Why the program ends without doing anything. -/
inductive Halt where
  /-- It was asked for a text about itself. -/
  | shown (text : String)
  /-- It, or one of its commands, was used wrongly. -/
  | misuse (who message : String)
deriving DecidableEq, Repr

namespace Halt

/-- The name of the program, or of one of its commands. -/
def speaker (command : String) : String :=
  if command = "" then "njdice" else "njdice " ++ command

end Halt

/-! ## Options -/

/-- Asks for the help text. -/
def helpOption : OptionSpec := ⟨["-h", "--help"], false⟩

/-- Asks for the version. -/
def versionOption : OptionSpec := ⟨["--version"], false⟩

/-- Names the file of variables. -/
def envFileOption : OptionSpec := ⟨["--env-file"], true⟩

/-- Sets the level from which on log records are written. -/
def logLevelOption : OptionSpec := ⟨["--log-level"], true⟩

/-- Names the game. -/
def systemOption : OptionSpec := ⟨["--system"], true⟩

/-- Sets the seed. -/
def seedOption : OptionSpec := ⟨["--seed"], true⟩

/-- A value that is none of the choices. -/
def invalidChoice (argument value : String) (choices : List String) : String :=
  let listed := ", ".intercalate (choices.map Text.quote)
  s!"argument {argument}: invalid choice: {Text.quote value} (choose from {listed})"

/-! ## Commands -/

/-- What a command has been given. -/
structure CommandGiven where
  system : Option String := none
  seed : Option Int := none
  words : Option (List String) := none
  stray : List String := []
deriving DecidableEq, Repr

/-- How a command is used: its options, the words it takes, and its help text. -/
structure CommandSpec where
  name : String
  options : List OptionSpec
  rule : WordRule
  usage : String
  /-- What is to be done, unless words are missing. -/
  command : CommandGiven → Option Command

/-- The commands, in the order in which they are listed. -/
def commandSpecs : List CommandSpec := [
  { name := "roll", options := [helpOption, systemOption, seedOption], rule := .run
    usage := Usage.roll, command := fun g => g.words.map (.roll g.system g.seed) },
  { name := "shell", options := [helpOption, systemOption, seedOption], rule := .none
    usage := Usage.shell, command := fun g => some (.shell g.system g.seed) },
  { name := "help", options := [helpOption, systemOption], rule := .none
    usage := Usage.help, command := fun g => some (.help g.system) },
  { name := "systems", options := [helpOption], rule := .none
    usage := Usage.plain "systems", command := fun _ => some .systems },
  { name := "config", options := [helpOption], rule := .none
    usage := Usage.plain "config", command := fun _ => some .config }]

namespace CommandSpec

/-- Goes through what a command's arguments come to. -/
def gather (spec : CommandSpec) : CommandGiven → List Event → Except Halt CommandGiven
  | given, [] => .ok given
  | given, event :: rest =>
    match event with
    | .misuse message => .error (.misuse (Halt.speaker spec.name) message)
    | .stray args => spec.gather { given with stray := given.stray ++ args } rest
    | .words args => spec.gather { given with words := some (args.erase "--") } rest
    | .option o value =>
      if o = helpOption then .error (.shown spec.usage)
      else if o = systemOption then spec.gather { given with system := value } rest
      else if o = seedOption then
        let text := value.getD ""
        match Text.readArgument? text with
        | some seed => spec.gather { given with seed := some seed } rest
        | none =>
          let message := s!"argument --seed: invalid int value: {Text.quote text}"
          .error (.misuse (Halt.speaker spec.name) message)
      else spec.gather given rest

/-- A command with its arguments, and the arguments that it does not know. -/
def parse (spec : CommandSpec) (args : List String) : Except Halt (Command × List String) :=
  match classifyAll spec.options args with
  | .error message => .error (.misuse (Halt.speaker spec.name) message)
  | .ok words => do
    let given ← spec.gather {} (events spec.rule words)
    match spec.command given with
    | some command => return (command, given.stray)
    | none =>
      throw (.misuse (Halt.speaker spec.name) "the following arguments are required: commands")

end CommandSpec

/-! ## The program -/

/-- What the program has been given, and the arguments that nobody knows: its own first, then those
of the command. -/
structure ProgramGiven where
  arguments : Arguments := {}
  stray : List String := []
  commandStray : List String := []
deriving DecidableEq, Repr

/-- The options of the program. -/
def programOptions : List OptionSpec :=
  [helpOption, versionOption, envFileOption, logLevelOption]

/-- A misuse of the program. -/
def programMisuse {α : Type} (message : String) : Except Halt α :=
  .error (.misuse (Halt.speaker "") message)

/-- The command that the program's words name, with the arguments behind its name. -/
def parseCommand : List String → Except Halt (Command × List String)
  | [] => programMisuse "the following arguments are required: command"
  | name :: args =>
    match commandSpecs.find? fun spec => spec.name == name with
    | some spec => spec.parse args
    | none => programMisuse (invalidChoice "command" name (commandSpecs.map CommandSpec.name))

/-- Goes through what the program's arguments come to. -/
def gatherProgram : ProgramGiven → List Event → Except Halt ProgramGiven
  | given, [] => .ok given
  | given, event :: rest =>
    match event with
    | .misuse message => programMisuse message
    | .stray args => gatherProgram { given with stray := given.stray ++ args } rest
    | .words args => do
      let (command, stray) ← parseCommand args
      let arguments := { given.arguments with command := some command }
      gatherProgram { given with arguments, commandStray := stray } rest
    | .option o value =>
      let text := value.getD ""
      if o = helpOption then .error (.shown Usage.program)
      else if o = versionOption then .error (.shown Usage.version)
      else if o = envFileOption then
        let arguments := { given.arguments with envFile := some (plainPath text) }
        gatherProgram { given with arguments } rest
      else if o = logLevelOption then
        match Log.Level.ofName? text with
        | some level =>
          let arguments := { given.arguments with logLevel := some level }
          gatherProgram { given with arguments } rest
        | none =>
          programMisuse (invalidChoice "--log-level" text (Log.Level.all.map Log.Level.name))
      else gatherProgram given rest

/-- The arguments of the program. -/
def parseArguments (args : List String) : Except Halt Arguments :=
  match classifyAll programOptions args with
  | .error message => programMisuse message
  | .ok words => do
    let given ← gatherProgram {} (events .rest words)
    match given.stray ++ given.commandStray with
    | [] => return given.arguments
    | stray => programMisuse ("unrecognized arguments: " ++ " ".intercalate stray)

end ChatDice.CommandLine
