import ChatDice.Dice.Comparison

/-!
# ChatDice.Dice.BRoll — the roll that counts successes

A B roll throws one or more groups of dice and keeps every face apart. `4B6>=4` throws four dice of
six sides and counts the faces from four up; `2B6+3B10` throws two groups and counts nothing.

This file has the roll as data, the way it is written, and the account of a roll that was thrown.
-/

namespace ChatDice

/-- Stands between the stages of a result. -/
def stageSeparator : String := " ＞ "

/-- Stages of a result, one behind the other. -/
def joinStages (stages : List String) : String :=
  stageSeparator.intercalate stages

/-! ## Rolls -/

/-- So many dice with so many sides each. -/
structure DiceGroup where
  times : Nat
  sides : Nat
deriving DecidableEq, Repr

/-- A group as a command writes it. Its numbers are those of a command, so they are short. -/
def DiceGroup.render (g : DiceGroup) : String :=
  toString g.times ++ "B" ++ toString g.sides

/-- Groups of dice, and the comparison that counts successes, if one is stated. -/
structure BRoll where
  groups : List DiceGroup
  comparison : Option Comparison
deriving DecidableEq, Repr

/-- The roll as a command writes it. -/
def BRoll.render (r : BRoll) : Except Fault String := do
  let groups := "+".intercalate (r.groups.map DiceGroup.render)
  match r.comparison with
  | none => return groups
  | some c => return groups ++ (← c.render)

/-- The command that throws so many six-sided dice and counts the faces from a threshold up. -/
def successCommand (num threshold : Int) : Except Fault String := do
  return (← writeNumber num) ++ "B6>=" ++ (← writeNumber threshold)

/-! ## Accounts -/

/-- What came of a roll. -/
structure RollReport where
  /-- The account shown to the players. -/
  text : String
  /-- How many faces were successes; none if nothing was compared. -/
  successes : Nat
  /-- Every face, in the order rolled. -/
  faces : List Nat
  /-- The faces of the last group. -/
  lastFaces : List Nat
deriving DecidableEq, Repr

/-- The faces as shown: commas within a group, blanks between groups. -/
def renderFaces (rolled : List (List Nat)) : String :=
  " ".intercalate (rolled.map fun faces => ",".intercalate (faces.map toString))

/-- The account of a roll, given the way that the roll is shown and the faces of its groups. -/
def BRoll.reportAs (r : BRoll) (shown : String) (rolled : List (List Nat)) : RollReport :=
  let faces := rolled.flatten
  let opening := ["(" ++ shown ++ ")", renderFaces rolled]
  let lastFaces := rolled.getLast?.getD []
  match r.comparison with
  | none => { text := joinStages opening, successes := 0, faces, lastFaces }
  | some c =>
    let successes := faces.countP c.accepts
    { text := joinStages (opening ++ [s!"Successes: {successes}"]), successes, faces, lastFaces }

/-- The account of a roll whose groups showed these faces. -/
def BRoll.report (r : BRoll) (rolled : List (List Nat)) : Except Fault RollReport := do
  return r.reportAs (← r.render) rolled

end ChatDice
