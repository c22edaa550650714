import ChatDice.Text.Integer
import ChatDice.Text.Quoted

/-!
# ChatDice.Dice.Fault — why a command fails

A command that a game does not know is no fault: its evaluation has no answer. A fault ends the
evaluation of a command that was understood, or of a game's own data. `Fault.message` words each.
-/

namespace ChatDice

/-- What ends an evaluation. -/
inductive Fault where
  /-- A command states a number with more digits than any roll can need. -/
  | numberTooLarge (digits : Nat)
  /-- A number cannot be written, since it has more digits than texts may hold of one. -/
  | unwritableNumber
  /-- One command asks for more dice than the roller's limit. -/
  | drawLimit (limit : Nat)
  /-- A die has no side to show. -/
  | dieWithoutSides (sides : Int)
  /-- A game's default comparison is none of the six. -/
  | unknownComparison (sign : String)
  /-- A difficulty is neither a threshold nor one of the five names. -/
  | unknownDifficulty (token : String)
  /-- A table has no entry for the face that was rolled. -/
  | missingEntry (table : String) (face : Nat)
  /-- A check's own dice could not be rolled. -/
  | unrolledCheck (command : String)
deriving DecidableEq, Repr

namespace Fault

/-- The fault in words. -/
def message : Fault → String
  | numberTooLarge digits => s!"Number too large in command ({digits} digits)"
  | unwritableNumber => Text.tooManyDigits none
  | drawLimit limit => s!"Too many dice rolled in one command (limit {limit})"
  | dieWithoutSides sides =>
    Text.sayInteger sides fun digits => s!"Die must have at least one side, got {digits}"
  | unknownComparison sign => Text.quote sign
  | unknownDifficulty token => s!"Unknown difficulty: {Text.quote token}"
  | missingEntry table face => s!"Table {Text.quote table} has no entry for {face}"
  | unrolledCheck command => s!"No dice to roll in {Text.quote command}"

/-- A command that asks for too much: more dice than allowed, or a number too large to read. The
player is told and the next command is evaluated. A number that cannot be written is no such thing:
it is not from the command, but from the data of a game or of a program. -/
def isExcess : Fault → Bool
  | numberTooLarge _ | drawLimit _ => true
  | _ => false

end Fault

end ChatDice
