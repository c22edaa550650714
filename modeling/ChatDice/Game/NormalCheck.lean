import ChatDice.Dice.BRoll
import ChatDice.Dice.Number
import ChatDice.Game.Difficulty

/-!
# ChatDice.Game.NormalCheck — normal checks as B rolls

A normal check reads nothing more out of its faces than their successes, so it is only another way
to write a B roll: `NJ4@H` is `4B6>=5`. The flag of a secret roll in front of it stays in place.
-/

namespace ChatDice

/-- The parts of a normal check. -/
structure NormalCheckText where
  secret : Bool
  count : List Char
  difficulty : Option (List Char)
deriving DecidableEq, Repr

namespace NormalCheckText

/-- The parts behind the flag. -/
def readUnflagged? (secret : Bool) : List Char → Option NormalCheckText
  | 'N' :: 'J' :: rest =>
    let count := rest.takeWhile Char.isDigit
    let (difficulty, rest) := Difficulty.readSuffix (rest.dropWhile Char.isDigit)
    if count ≠ [] ∧ rest = [] then some { secret, count, difficulty } else none
  | _ => none

/-- The parts of a command; none if it is not a normal check. -/
def read? : List Char → Option NormalCheckText
  | 'S' :: rest => readUnflagged? true rest
  | cs => readUnflagged? false cs

end NormalCheckText

/-- Writes a normal check out as a B roll; every other command is left as it is. -/
def expandNormalCheck (command : String) : Except Fault String :=
  match NormalCheckText.read? command.toList with
  | none => .ok command
  | some text => do
    let count ← readNumber text.count
    let difficulty ← Difficulty.ofSuffix text.difficulty
    let flag := if text.secret then "S" else ""
    return flag ++ (← successCommand count difficulty.threshold)

end ChatDice
