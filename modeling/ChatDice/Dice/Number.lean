import ChatDice.Dice.Fault

/-!
# ChatDice.Dice.Number — the numbers in commands

A number in a command is a run of ASCII digits. Leading zeros do not count; a number with more than
`maxDigits` digits after them is refused before it is read, since no roll can need it.

Numbers are also written: commands for checks, and the accounts of rolls. What a command states can
always be written. The data of a game may have longer numbers, and `writeNumber` fails at the limit
for texts.
-/

namespace ChatDice

/-- The most digits that a number may have, leading zeros apart. -/
def maxDigits : Nat := 18

/-- The digits from the first one that is not zero. -/
def significantDigits (digits : List Char) : List Char :=
  digits.dropWhile (· == '0')

/-- The number that a run of digits stands for; an empty run stands for zero. -/
def readNumber (digits : List Char) : Except Fault Nat :=
  let significant := significantDigits digits
  if maxDigits < significant.length then .error (.numberTooLarge significant.length)
  else .ok (Nat.ofDigitChars 10 significant 0)

/-- A number in writing, with a minus sign if it is negative. -/
def writeNumber (n : Int) : Except Fault String :=
  match Text.writeInteger? n with
  | some digits => .ok digits
  | none => .error .unwritableNumber

end ChatDice
