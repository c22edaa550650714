import ChatDice.CommandLine.Run
import Std.Time.Format

/-!
# ChatDice.Main — the program

Collects what surrounds the run, runs it, and does what came of it.
-/

open ChatDice ChatDice.CommandLine

/-- The names under which settings may stand in the environment. -/
def settingNames : List String :=
  ["HOME", "ENVIRONMENT", "LOG_LEVEL", "LOG_FILE", "DICE"] ++
    DiceSettings.fieldNames.flatMap fun name => ["DICE__" ++ name.toUpper, "DICE_" ++ name.toUpper]

/-- An entry of the environment: a name, and the text behind its equals sign. -/
def splitEntry? (entry : List Char) : Option (String × String) :=
  match entry.dropWhile (· != '=') with
  | [] => none
  | _ :: text => some (String.ofList (entry.takeWhile (· != '=')), String.ofList text)

/-- The environment of the process. Where its entries cannot be listed, they are looked up by the
names of settings. -/
def readEnvironment : IO Environment := do
  let listed ← try
      pure (String.fromUTF8? (← IO.FS.readBinFile "/proc/self/environ"))
    catch _ => pure none
  match listed with
  | some entries => return (entries.toList.splitOn '\x00').filterMap splitEntry?
  | none =>
    let names := settingNames ++ settingNames.map String.toLower
    let found ← names.mapM fun name => do
      return (← IO.getEnv name).map (name, ·)
    return found.filterMap id

/-- A file with its text, if there is such a file. -/
def readFile? (path : String) : IO Files := do
  try
    return [(path, ← IO.FS.readFile path)]
  catch _ =>
    return []

/-- The time, as log records show it. -/
def timeStamp : IO String := do
  let now ← Std.Time.Timestamp.now
  let date := Std.Time.DateTime.ofTimestampWithZone now .UTC
  return date.format "uuuu-MM-dd HH:mm:ss"

/-- A number that no one chose. -/
def drawChance : IO Int := do
  let bytes ← IO.getRandomBytes 32
  return (bytes.foldl (fun n b => 256 * n + b.toNat) 0 : Nat)

/-- Writes a text behind the end of a file, whose folder is made if there is none. -/
def appendFile (path text : String) : IO Unit := do
  if let some parent := parentPath? path then
    if parent ≠ "" then
      IO.FS.createDirAll parent
  let handle ← IO.FS.Handle.mk path .append
  handle.putStr text

/-- Runs the program with its arguments. -/
def main (args : List String) : IO UInt32 := do
  let (path, reads) := match parseArguments args with
    | .ok arguments =>
      (arguments.envFile.getD Settings.defaultFile, arguments.command matches some (.shell _ _))
    | .error _ => (Settings.defaultFile, false)
  let env ← readEnvironment
  let files ← match Settings.filePath? env path with
    | .ok (some path) => readFile? path
    | _ => pure []
  let input ← if reads then (← IO.getStdin).readToEnd else pure ""
  -- The records of a run are written together, at one time.
  let now ← timeStamp
  let outcome := run args {
    env
    files
    input
    chance := ← drawChance
    clock := fun _ => now }
  if let some (path, text) := outcome.logged then
    appendFile path text
  (← IO.getStdout).putStr outcome.stdout
  (← IO.getStderr).putStr outcome.stderr
  return outcome.exit.toUInt32
