import ChatDice.Settings.Basic
import ChatDice.Settings.FilePath
import ChatDice.Settings.VariableFile
import ChatDice.Dice.Roller

/-!
# ChatDice.Settings.Loading — where settings come from

A setting is looked for in the environment, then in a file of variables, then it has its default.
The settings of the dice form a group of their own. The group is given as a JSON object under the
name `DICE`, or member by member under names that start with `DICE__`, which count for more than the
object does. A field that the group leaves out may still be given by the environment alone, under a
name that starts with `DICE_`.

The group changes who complains: if it is given, its issues are issues of the settings; if it is
not, the group is loaded on its own and its issues are the only ones.
-/

namespace ChatDice

/-! ## The dice group -/

namespace DiceSettings

/-- The names of the fields. -/
def fieldNames : List String := ["game_system", "seed", "max_rands"]

/-- The name of the field that a member is meant for, whatever its capitals; a member for no field
keeps its name. -/
def fieldName (name : LooseText) : LooseText :=
  match name.text?.bind fun s => fieldNames.find? fun field => field == Text.lowerCase s with
  | some field => .text field
  | none => name

/-- What a source gives for the group: an object whose members have the names of their fields, or
some other value. -/
def givenBy (source : String) (vars : Variables) : Except SettingsError (Option Json) :=
  let single := vars.nested "dice__"
  let named (members : Json.Members) : Json := .object (Dictionary.mapKeys fieldName members)
  match vars.text? "dice" with
  | none => .ok (if single = [] then none else some (named single))
  | some text =>
    match Json.read? text with
    | none => .error (.unreadable source)
    | some .null => .ok none
    | some (.object members) => .ok (some (named (Json.mergeMembers members single)))
    | some value => .ok (some value)

/-- The issue with a member that no field takes. -/
def strayIssue : LooseText × Json → Issue
  | (.text name, value) => ⟨[name], .unexpected, value⟩
  | (name, _) => ⟨[], .brokenText, .string name⟩

/-- The dice settings from the members of their group and from the environment. -/
def load (members : Json.Members) (env : Variables) : Checked DiceSettings :=
  -- The environment fills in what the group leaves out; a null in the group leaves nothing out.
  let given (name : String) : Option Json :=
    (members.get? (.text name)).or ((env.text? ("dice_" ++ name)).map .ofText)
  let gameSystem := fieldOr "game_system" (.text "NinjaSlayer") checkText (given "game_system")
  let seed := fieldOr "seed" none (checkOptional checkInteger) (given "seed")
  let maxRands := fieldOr "max_rands" Roller.defaultLimit (checkAbove 0) (given "max_rands")
  let stray := members.filter fun m => m.1 ∉ fieldNames.map LooseText.text
  -- A name that is no text is all there is to complain about.
  match stray.find? fun m => m.1.text?.isNone with
  | some member => .error [strayIssue member]
  | none =>
    match gameSystem, seed, maxRands, stray with
    | .ok gameSystem, .ok seed, .ok maxRands, [] => .ok { gameSystem, seed, maxRands }
    | gameSystem, seed, maxRands, stray =>
      .error (gameSystem.issues ++ seed.issues ++ maxRands.issues ++ stray.map strayIssue)

/-- The dice settings as a field of the settings. -/
def ofGroup (env : Variables) : Json → Checked DiceSettings
  | .object members => (load members env).mapError (·.map (Issue.within "dice"))
  | other => .error [⟨["dice"], .notAnObject "DiceSettings", other⟩]

end DiceSettings

/-! ## Settings -/

namespace Settings

/-- The word of a deployment. -/
def checkDeployment (given : Json) : Except Complaint Deployment := do
  let s ← checkAmong (Deployment.all.map Deployment.name) given
  return (Deployment.ofName? s).getD .development

/-- The name of a level. -/
def checkLevel (given : Json) : Except Complaint Log.Level := do
  let s ← checkAmong (Log.Level.all.map Log.Level.name) given
  return (Log.Level.ofName? s).getD .info

/-- A path. -/
def checkPath : Json → Except Complaint (Option String)
  | .string (.text path) => .ok (some (plainPath path))
  | _ => .error .notAText

/-- The settings that an environment and a file of variables give. -/
def load (env file : Variables) : Except SettingsError Settings := do
  let diceEnv ← DiceSettings.givenBy "EnvSettingsSource" env
  let diceFile ← DiceSettings.givenBy "DotEnvSettingsSource" file
  let given (name : String) : Option Json :=
    ((env.text? name).or (file.text? name)).map .ofText
  let environment := fieldOr "environment" .development checkDeployment (given "environment")
  let logLevel := fieldOr "log_level" .info checkLevel (given "log_level")
  let logFile := fieldOr "log_file" none checkPath (given "log_file")
  let dice ←
    match (diceEnv.map (Json.merge diceFile)).or diceFile with
    | some group => pure (DiceSettings.ofGroup env group)
    | none =>
      -- The issues of a group that is not given are reported alone.
      match DiceSettings.load [] env with
      | .ok dice => pure (.ok dice)
      | .error issues => throw (.invalid "DiceSettings" issues)
  match environment, logLevel, logFile, dice with
  | .ok environment, .ok logLevel, .ok logFile, .ok dice =>
    return { environment, logLevel, logFile, dice }
  | environment, logLevel, logFile, dice =>
    throw (.invalid "Settings"
      (environment.issues ++ logLevel.issues ++ logFile.issues ++ dice.issues))

/-! ## The file of variables -/

/-- The file of variables that is read when no other is named. -/
def defaultFile : String := ".env"

/-- The path of the named file of variables, if it may be there. -/
def filePath? (env : Environment) (path : String) : Except SettingsError (Option String) :=
  (atHome? (env.text? "HOME") (plainPath path)).mapError fun _ => .unknownHome

/-- The statements of the named file. A file that there is not has none. -/
def statements (env : Environment) (files : Files) (path : String) :
    Except SettingsError (List Statement) := do
  return (((← filePath? env path).bind files.read?).map Statement.ofText).getD []

/-- The settings that an environment and the named file give. -/
def loadFrom (env : Environment) (files : Files) (path : String) :
    Except SettingsError Settings := do
  let file ← statements env files path
  load (.ofEnvironment env) (.ofStatements env file)

/-- What is said about a statement that cannot be read. -/
def warning? : Statement → Option String
  | .faulty line =>
    some s!"python-dotenv could not parse statement starting at line {line}\n"
  | _ => none

/-- What is said about the named file while settings are loaded. -/
def warnings (env : Environment) (files : Files) (path : String) : String :=
  match statements env files path with
  | .ok statements => String.join (statements.filterMap warning?)
  | .error _ => ""

end Settings

end ChatDice
