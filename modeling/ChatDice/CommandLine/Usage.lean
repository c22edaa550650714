/-!
# ChatDice.CommandLine.Usage — the help texts

One text for the program and one for each of its commands, in lines of at most eighty characters.
-/

namespace ChatDice.CommandLine.Usage

/-- Lines, each of them ended. -/
def ofLines (lines : List String) : String :=
  String.join (lines.map (· ++ "\n"))

/-- The program's name and version. -/
def version : String := "njdice 0.1.0\n"

/-- The help text of the program. -/
def program : String := ofLines [
  "usage: njdice [-h] [--version] [--env-file ENV_FILE]",
  "              [--log-level \x7bDEBUG,INFO,WARNING,ERROR,CRITICAL\x7d]",
  "              \x7broll,shell,help,systems,config\x7d ...",
  "",
  "Dice command interpreter for the Ninja Slayer TRPG",
  "",
  "positional arguments:",
  "  \x7broll,shell,help,systems,config\x7d",
  "                        Available commands",
  "    roll                Evaluate one or more dice commands",
  "    shell               Read dice commands from stdin, one per line",
  "    help                Show the command reference for a game system",
  "    systems             List available game systems",
  "    config              Show current configuration",
  "",
  "options:",
  "  -h, --help            show this help message and exit",
  "  --version             show program's version number and exit",
  "  --env-file ENV_FILE   Path to .env file (default: .env in current directory)",
  "  --log-level \x7bDEBUG,INFO,WARNING,ERROR,CRITICAL\x7d",
  "                        Override logging level from config"]

/-- The options of the commands that roll dice. -/
def rollingOptions : List String := [
  "options:",
  "  -h, --help       show this help message and exit",
  "  --system SYSTEM  Game system ID (default: DICE__GAME_SYSTEM from config)",
  "  --seed SEED      Seed the randomizer for reproducible rolls (default:",
  "                   DICE__SEED from config)"]

/-- The help text of `roll`. -/
def roll : String := ofLines ([
  "usage: njdice roll [-h] [--system SYSTEM] [--seed SEED]",
  "                   commands [commands ...]",
  "",
  "positional arguments:",
  "  commands         Dice commands, e.g. \"NJ4@H\" \"EV5/3\" \"AT6[H]\" \"EL6@H\" \"SB\"",
  ""] ++ rollingOptions)

/-- The help text of `shell`. -/
def shell : String := ofLines ([
  "usage: njdice shell [-h] [--system SYSTEM] [--seed SEED]",
  ""] ++ rollingOptions)

/-- The help text of `help`. -/
def help : String := ofLines [
  "usage: njdice help [-h] [--system SYSTEM]",
  "",
  "options:",
  "  -h, --help       show this help message and exit",
  "  --system SYSTEM  Game system ID (default: DICE__GAME_SYSTEM from config)"]

/-- The help text of a command that has no options of its own. -/
def plain (command : String) : String := ofLines [
  "usage: njdice " ++ command ++ " [-h]",
  "",
  "options:",
  "  -h, --help  show this help message and exit"]

end ChatDice.CommandLine.Usage
