import ChatDice.Dice.BRoll.Reading
import ChatDice.Dice.Roller

/-!
# ChatDice.Dice.BRoll.Rolling — throwing a B roll

`BRoll.eval` reads a command, throws its groups from left to right and gives an account of them.
A roll that states no comparison may get one from the game, its *fallback*. The fallback is data of
the game and is looked at after the dice have been thrown.
-/

namespace ChatDice

/-- The comparison that a game applies to rolls without one, by its sign. -/
structure Fallback where
  sign : String
  target : Int
deriving DecidableEq, Repr

/-- A fallback needs both its parts. -/
def Fallback.ofParts? : Option String → Option Int → Option Fallback
  | some sign, some target => some ⟨sign, target⟩
  | _, _ => none

/-- The comparison of a fallback; its sign must be one of those that commands may use. -/
def Fallback.comparison (f : Fallback) : Except Fault Comparison :=
  match CompareOp.ofSign? f.sign with
  | some op => .ok ⟨op, f.target⟩
  | none => .error (.unknownComparison f.sign)

namespace BRoll

/-- Where a roll with an empty group is logged. -/
def siteOfEmptyGroup : Log.Site := ⟨"njdice.dice.barabara", "eval", 102⟩

section
variable {σ : Type} [DieSource σ]

/-- Throws groups of dice and gives the faces of each. -/
def rollGroups : List DiceGroup → Rolling σ (List (List Nat))
  | [] => pure []
  | g :: gs => do
    let faces ← rollDice g.times g.sides
    let rest ← rollGroups gs
    return faces :: rest

/-- The roll with the fallback in place of a comparison that is not stated. -/
def withFallback (r : BRoll) (fallback : Option Fallback) : Except Fault BRoll :=
  match r.comparison, fallback with
  | none, some f => do
    let c ← f.comparison
    return { r with comparison := some c }
  | _, _ => .ok r

/-- Throws a roll and gives an account of it. -/
def throwDice (r : BRoll) (fallback : Option Fallback) : Rolling σ RollReport := do
  let rolled ← rollGroups r.groups
  -- A fallback that is no comparison is a fault, and so is one that cannot be written, but the dice
  -- have been thrown and stay on record.
  let judged ← Rolling.ofExcept (r.withFallback fallback)
  Rolling.ofExcept (judged.report rolled)

/-- Evaluates a command as a B roll; there is no answer if it is not one or has an empty group. -/
def eval (command : String) (fallback : Option Fallback := none) :
    Rolling σ (Option RollReport) := do
  match ← Rolling.ofExcept (read command.toList) with
  | .unrecognized => return none
  | .emptyGroup group =>
    note .debug siteOfEmptyGroup
      s!"Rejecting empty dice group {Text.quote group.render} in {Text.quote command}"
    return none
  | .roll r => return some (← r.throwDice fallback)

end

end BRoll

end ChatDice
