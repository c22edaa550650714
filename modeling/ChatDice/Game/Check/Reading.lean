import ChatDice.Dice.Number
import ChatDice.Game.Check

/-!
# ChatDice.Game.Check.Reading — reading a check

A check is written as two capital letters, the number of dice, and optionally a difficulty. An
evasion may go on with a slash and the attacker's successes. `CheckText.read?` finds the parts,
`Check.read` reads the numbers and the difficulty.
-/

namespace ChatDice

/-! ## The parts -/

/-- The letters that a check starts with. -/
inductive CheckLetters where
  | ev
  | at
  | el
deriving DecidableEq, Repr

/-- The parts of a check. -/
structure CheckText where
  letters : CheckLetters
  count : List Char
  difficulty : Option (List Char)
  target : Option (List Char)
deriving DecidableEq, Repr

namespace CheckText

/-- The letters of a check, and the rest of the command. -/
def readLetters? : List Char → Option (CheckLetters × List Char)
  | 'E' :: 'V' :: rest => some (.ev, rest)
  | 'A' :: 'T' :: rest => some (.at, rest)
  | 'E' :: 'L' :: rest => some (.el, rest)
  | _ => none

/-- What may stand behind the difficulty: nothing, or in an evasion a slash and digits. -/
def readEnd? (letters : CheckLetters) (cs : List Char) : Option (Option (List Char)) :=
  match letters, cs with
  | _, [] => some none
  | .ev, '/' :: digits =>
    if digits ≠ [] ∧ digits.all Char.isDigit then some (some digits) else none
  | _, _ => none

/-- The parts of a command; none if it is not a check. -/
def read? (cs : List Char) : Option CheckText := do
  let (letters, rest) ← readLetters? cs
  let count := rest.takeWhile Char.isDigit
  if count = [] then none
  else
    let (difficulty, rest) := Difficulty.readSuffix (rest.dropWhile Char.isDigit)
    let target ← readEnd? letters rest
    return { letters, count, difficulty, target }

end CheckText

/-! ## The numbers -/

/-- What a command says to the reader of checks. -/
inductive Check.Reading where
  /-- It is not a check. -/
  | unrecognized
  /-- It is a check of no dice. -/
  | noDice
  /-- It is a check. -/
  | check (c : Check)
deriving DecidableEq, Repr

/-- The kind that the letters name, with the target that was read for it. -/
def CheckLetters.kind (target : Option Nat) : CheckLetters → CheckKind
  | .ev => .evasion target
  | .at => .meleeAttack
  | .el => .electronicWarfare

/-- Reads a command as a check. The number of dice is read first; if it is zero nothing else is. -/
def Check.read (command : List Char) : Except Fault Check.Reading :=
  match CheckText.read? command with
  | none => .ok .unrecognized
  | some text => do
    let count ← readNumber text.count
    if h : 0 < count then
      let difficulty ← Difficulty.ofSuffix text.difficulty
      -- Only here may a target be too large: a check of no dice has none that counts.
      let target ← text.target.mapM readNumber
      return .check { kind := text.letters.kind target, count, difficulty, count_pos := h }
    else return .noDice

end ChatDice
