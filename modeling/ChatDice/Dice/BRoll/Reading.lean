import ChatDice.Dice.BRoll
import ChatDice.Dice.Number

/-!
# ChatDice.Dice.BRoll.Reading — reading a B roll

A B roll is written as groups `<times>B<sides>` with `+` between them and, behind the last group, an
optional comparison with a target. Letters may be small, digits are ASCII, and nothing else may
stand in the command, not even a blank.

Reading has two steps. `BRollText.read?` finds the parts and leaves the digits as they are;
`BRoll.read` then reads the numbers from left to right. The first step decides whether the command
is a B roll at all, the second whether it can be rolled.
-/

namespace ChatDice

/-! ## The parts -/

/-- A group as written: the digits on both sides of the `B`. -/
structure GroupText where
  times : List Char
  sides : List Char
deriving DecidableEq, Repr

namespace GroupText

/-- The group with a capital `B`. -/
def render (g : GroupText) : String :=
  String.ofList (g.times ++ 'B' :: g.sides)

/-- Takes a group off the front of a text. -/
def read? (cs : List Char) : Option (GroupText × List Char) :=
  let times := cs.takeWhile Char.isDigit
  match times, cs.dropWhile Char.isDigit with
  | _ :: _, mark :: rest =>
    let sides := rest.takeWhile Char.isDigit
    if (mark = 'B' ∨ mark = 'b') ∧ sides ≠ [] then
      some (⟨times, sides⟩, rest.dropWhile Char.isDigit)
    else none
  | _, _ => none

end GroupText

/-- What stands behind the last group: nothing, or a sign and the digits of a target. -/
def readComparison? (cs : List Char) : Option (Option (CompareOp × List Char)) :=
  if cs = [] then some none
  else
    match CompareOp.read? cs with
    | some (op, digits) =>
      if digits ≠ [] ∧ digits.all Char.isDigit then some (some (op, digits)) else none
    | none => none

/-- The parts of a B roll. -/
structure BRollText where
  groups : List GroupText
  comparison : Option (CompareOp × List Char)
deriving DecidableEq, Repr

namespace BRollText

/-- The parts of a text that has been cut at every `+`: groups, and the comparison behind the last
of them. -/
def ofPieces? : List (List Char) → Option BRollText
  | [] => none
  | [piece] => do
    let (group, rest) ← GroupText.read? piece
    let comparison ← readComparison? rest
    return ⟨[group], comparison⟩
  | piece :: pieces => do
    let (group, rest) ← GroupText.read? piece
    if rest = [] then
      let text ← ofPieces? pieces
      return { text with groups := group :: text.groups }
    else none

/-- The parts of a command; none if it is not a B roll. -/
def read? (cs : List Char) : Option BRollText :=
  ofPieces? (cs.splitOn '+')

end BRollText

/-! ## The numbers -/

/-- What a command says to the reader of B rolls. -/
inductive BRoll.Reading where
  /-- It is not a B roll. -/
  | unrecognized
  /-- It is one, but a group has no dice or dice without sides. -/
  | emptyGroup (group : GroupText)
  /-- It can be rolled. -/
  | roll (r : BRoll)
deriving DecidableEq, Repr

/-- Reads the numbers of the groups from left to right, as far as a group that has no dice or dice
without sides. Such a group is the inner error. -/
def readGroups : List GroupText → Except Fault (Except GroupText (List DiceGroup))
  | [] => .ok (.ok [])
  | g :: gs => do
    let times ← readNumber g.times
    let sides ← readNumber g.sides
    -- The groups behind an empty one are not read, so their numbers may have any size.
    if times = 0 ∨ sides = 0 then
      return .error g
    let groups ← readGroups gs
    return groups.map (⟨times, sides⟩ :: ·)

/-- Reads the target of a comparison, if there is one. -/
def readTarget : Option (CompareOp × List Char) → Except Fault (Option Comparison)
  | none => .ok none
  | some (op, digits) => do
    let target ← readNumber digits
    return some ⟨op, target⟩

/-- Reads a command as a B roll. The target is read after the groups, and only if all of them can be
rolled. -/
def BRoll.read (command : List Char) : Except Fault BRoll.Reading :=
  match BRollText.read? command with
  | none => .ok .unrecognized
  | some text => do
    match ← readGroups text.groups with
    | .error group => return .emptyGroup group
    | .ok groups =>
      let comparison ← readTarget text.comparison
      return .roll ⟨groups, comparison⟩

end ChatDice
