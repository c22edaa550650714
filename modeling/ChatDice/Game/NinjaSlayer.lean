import ChatDice.Game.Check.Reading
import ChatDice.Game.GameSystem
import ChatDice.Game.NinjaSlayer.Satsubatsu
import ChatDice.Game.NormalCheck

/-!
# ChatDice.Game.NinjaSlayer — the commands of the Ninja Slayer game

The game has five commands of its own. The normal check is written as a B roll before anything is
evaluated; evasion, melee attack and electronic warfare are checks; the last command rolls on the
table of finishing moves. Rolls that state no comparison count the faces from four up.
-/

namespace ChatDice.NinjaSlayer

/-- The commands that players can look up. -/
def help : String :=
  String.join <| List.map (· ++ "\n") [
    "- Normal check: NJ",
    "  NJx[y] or NJx@y or NJx",
    "  x = dice, y = difficulty (NORMAL(4) if omitted)",
    "  e.g. NJ4@H  HARD difficulty, 4 dice",
    "- Evasion: EV",
    "  EVx[y]/z or EVx@y/z or EVx/z or EVx[y] or EVx@y or EVx",
    "  x = dice, y = difficulty (NORMAL(4) if omitted), z = attacker's successes (optional)",
    "  With z given, a counter-strike is reported when it triggers",
    "  e.g. EV5/3  NORMAL difficulty, 5 dice, attacker scored 3 successes",
    "- Melee attack: AT",
    "  ATx[y] or ATx@y or ATx",
    "  x = dice, y = difficulty (NORMAL(4) if omitted); brutal hits are reported",
    "  e.g. AT6[H]  HARD difficulty, 6 dice",
    "- Satsubatsu table: SB",
    "- Electronic warfare: EL",
    "  ELx[y] or ELx@y or ELx",
    "  x = dice, y = difficulty (NORMAL(4) if omitted)",
    "  e.g. EL6[H]  HARD difficulty, 6 dice",
    "",
    "- Difficulty",
    "  KIDS=K, EASY=E, NORMAL=N, HARD=H, ULTRA HARD=UH, or a number 2-6"]

/-- The tables by the commands that roll on them. -/
def tables : List (String × DiceTable) :=
  [("SB", satsubatsuTable)]

/-- A place of this module in the log. -/
def site (function : String) (line : Nat) : Log.Site :=
  ⟨"njdice.game_system.ninja_slayer", function, line⟩

/-- Where a check of no dice is logged. -/
def siteOfNoDice : Log.Site := site "parse" 195

/-- Where commands are logged. -/
def siteOfCommand : Log.Site := site "eval_game_system_specific_command" 259

/-- Where checks are logged. -/
def siteOfCheck : Log.Site := site "eval_game_system_specific_command" 269

/-- A log record for players who look for a mistake. -/
def remark (site : Log.Site) (message : String) : Log.Record :=
  { site, level := .debug, message }

/-- Reads a table's command or a check. -/
def special (command : String) : SpecialReading :=
  let evaluating := remark siteOfCommand s!"NinjaSlayer: evaluating {Text.quote command}"
  match tables.lookup command with
  | some t => { notes := [evaluating], command := .ok (some (.table t)) }
  | none =>
    match Check.read command.toList with
    | .error fault => { notes := [evaluating], command := .error fault }
    | .ok .unrecognized => { notes := [evaluating], command := .ok none }
    | .ok .noDice =>
      let rejected := remark siteOfNoDice s!"Zero dice requested in {Text.quote command}"
      { notes := [evaluating, rejected], command := .ok none }
    | .ok (.check c) =>
      let parsed := remark siteOfCheck s!"Parsed {Text.quote command} as {c.describe}"
      { notes := [evaluating, parsed], command := .ok (some (.check c)) }

/-- The game. -/
def system : GameSystem where
  id := "NinjaSlayer"
  name := "Ninja Slayer TRPG"
  help
  prefixes := ["NJ", "EV", "AT", "EL"] ++ tables.map Prod.fst
  fallbackSign := some ">="
  fallbackTarget := some Difficulty.normal.threshold
  expand := expandNormalCheck
  special

end ChatDice.NinjaSlayer
