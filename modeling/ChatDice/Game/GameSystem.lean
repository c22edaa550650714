import ChatDice.Dice.BRoll.Rolling
import ChatDice.Dice.DiceTable
import ChatDice.Game.Check
import ChatDice.Game.Routing
import ChatDice.Text.Blank

/-!
# ChatDice.Game.GameSystem — games and how they evaluate commands

A game is data: how its commands start, how it expands a command, what its own commands ask for,
and which comparison it applies to rolls without one. The evaluation of a command is the same for
all games:

1. blanks around the command are dropped, and a command that does not start like one is passed over;
2. the record of the command before is forgotten, and the game expands the command;
3. the command is tried as one of the game's own, then as a B roll;
4. if it is neither and starts with the flag of a secret roll, the same is tried without the flag.

`GameSystem.handle` is the evaluation without the first step, `GameSystem.eval` all of it.
-/

namespace ChatDice

/-! ## Games -/

/-- What a command of a game's own asks for. -/
inductive SpecialCommand where
  /-- An entry of a table. -/
  | table (t : DiceTable)
  /-- A check. -/
  | check (c : Check)
  /-- One die, shown behind a label. -/
  | die (label : String) (sides : Int)
deriving Repr

/-- What a game makes of a command: the log records that it leaves, and then what is asked for, if
the command is one of the game's own. -/
structure SpecialReading where
  notes : List Log.Record := []
  command : Except Fault (Option SpecialCommand)

/-- A game. -/
structure GameSystem where
  id : String
  name : String
  help : String
  /-- The starts of the game's own commands, in the order in which they are tried. -/
  prefixes : List String
  /-- The sign of the comparison for rolls that state none. -/
  fallbackSign : Option String := none
  /-- The target of that comparison. -/
  fallbackTarget : Option Int := none
  /-- Writes a short form of a command out before it is evaluated. -/
  expand : String → Except Fault String := .ok
  /-- Reads a command of the game's own. -/
  special : String → SpecialReading

/-- The answer to a command. -/
structure CommandResult where
  text : String
  /-- The roll was asked for as a secret one. -/
  secret : Bool
  /-- Every draw of the evaluation. -/
  draws : List Draw
deriving DecidableEq, Repr

namespace GameSystem

/-- A game whose own commands are words that each roll one die. -/
def ofWords (id : String) (prefixes : List String) (fallbackSign : Option String)
    (fallbackTarget : Option Int) (words : List (String × Int)) : GameSystem where
  id
  name := id
  help := ""
  prefixes
  fallbackSign
  fallbackTarget
  special command := { command := .ok ((words.lookup command).map (.die command)) }

/-- The start of a command at the front of a text. -/
def start? (sys : GameSystem) (text : String) : Option String :=
  (Routing.start? sys.prefixes text.toList).map String.ofList

/-- The comparison for rolls that state none. -/
def fallback? (sys : GameSystem) : Option Fallback :=
  Fallback.ofParts? sys.fallbackSign sys.fallbackTarget

/-! ## Evaluation -/

/-- Where a command that does not start like one of the game's is logged. -/
def siteOfNoPrefix : Log.Site := ⟨"njdice.game_system.base", "eval", 107⟩

/-- Where results are logged. -/
def siteOfResult : Log.Site := ⟨"njdice.game_system.base", "eval", 122⟩

/-- Where a command without an answer is logged. -/
def siteOfNotHandled : Log.Site := ⟨"njdice.game_system.base", "eval", 129⟩

section
variable {σ : Type} [DieSource σ]

/-- Leaves a game's log records behind, in their order. -/
def noteAll (records : List Log.Record) : Rolling σ Unit :=
  modify fun r => { r with log := r.log ++ records }

/-- Does what a command of the game's own asks for. -/
def perform : SpecialCommand → Rolling σ String
  | .table t => do return (← t.roll).render
  | .check c => do
    let command ← Rolling.ofExcept c.command
    match ← BRoll.eval command with
    | some report => return c.annotate report
    | none => throw (.unrolledCheck command)
  | .die label sides => do
    let face ← rollDie sides
    return joinStages [label, ← Rolling.ofExcept (writeNumber face)]

/-- The answer to a command of the game's own. -/
def answerSpecial (sys : GameSystem) (command : String) : Rolling σ (Option String) := do
  let reading := sys.special command
  noteAll reading.notes
  match ← Rolling.ofExcept reading.command with
  | some special => return some (← perform special)
  | none => return none

/-- The answer to a command that all games share. -/
def answerCommon (sys : GameSystem) (command : String) : Rolling σ (Option String) := do
  return (← BRoll.eval command sys.fallback?).map RollReport.text

/-- The answer to a command: the game's own commands come first. -/
def answer (sys : GameSystem) (command : String) : Rolling σ (Option String) := do
  match ← sys.answerSpecial command with
  | some text => return some text
  | none => sys.answerCommon command

/-- The word for a truth value in log records. -/
def truthWord (b : Bool) : String :=
  if b then "True" else "False"

/-- The result of a command that has an answer, with the draws made for it. -/
def conclude (sys : GameSystem) (command text : String) (secret : Bool) :
    Rolling σ (Option CommandResult) := do
  note .debug siteOfResult
    (s!"{sys.id}: {Text.quote command} -> {Text.quote text} " ++ s!"(secret={truthWord secret})")
  let r ← get
  return some { text, secret, draws := r.record.toList }

/-- A command without an answer. -/
def passOver (sys : GameSystem) (command : String) : Rolling σ (Option CommandResult) := do
  note .debug siteOfNotHandled s!"{sys.id}: {Text.quote command} not handled"
  return none

/-- Evaluates a command that has no blanks around it, however it starts. -/
def handle (sys : GameSystem) (command : String) : Rolling σ (Option CommandResult) := do
  resetRecord
  let command ← Rolling.ofExcept (sys.expand command)
  -- The whole command comes first: a command of the game may itself start with the flag's letter.
  match ← sys.answer command with
  | some text => sys.conclude command text false
  | none =>
    match command.toList with
    | 'S' :: unflagged =>
      match ← sys.answer (String.ofList unflagged) with
      | some text => sys.conclude command text true
      | none => sys.passOver command
    | _ => sys.passOver command

/-- Evaluates a command. A command that does not start like one of the game's is passed over, and
the record of the command before it stays. -/
def eval (sys : GameSystem) (command : String) : Rolling σ (Option CommandResult) := do
  let command := Text.trim command
  match sys.start? command with
  | some _ => sys.handle command
  | none =>
    note .debug siteOfNoPrefix s!"{sys.id}: no prefix matches {Text.quote command}"
    return none

end

end GameSystem

end ChatDice
