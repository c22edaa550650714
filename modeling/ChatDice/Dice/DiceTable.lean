import ChatDice.Dice.BRoll
import ChatDice.Dice.Roller

/-!
# ChatDice.Dice.DiceTable — tables with one entry per face

A table is rolled with one die and has one entry of text for each of its faces. It is announced by
the die that rolls it, as in `1D6`, and the announcement must agree with the number of entries.
-/

namespace ChatDice

/-- Entries in the order of the faces that select them. -/
structure DiceTable where
  name : String
  entries : Array String
deriving DecidableEq, Repr

/-- Why a table cannot be set up. -/
inductive DiceTable.Refusal where
  /-- The die is not written `1D` and a number. -/
  | unsupportedDie (die : String)
  /-- The number of sides has more digits than can be read. -/
  | unreadableSides (digits : Nat)
  /-- The die and the entries do not agree. -/
  | wrongCount (name : String) (sides entries : Nat)
deriving DecidableEq, Repr

/-- One entry, selected by a roll. -/
structure TableResult where
  name : String
  face : Nat
  body : String
deriving DecidableEq, Repr

/-- The entry behind the table's name and the face that selected it. -/
def TableResult.render (r : TableResult) : String :=
  joinStages [r.name ++ "(" ++ toString r.face ++ ")", r.body]

namespace DiceTable

/-- The refusal in words. -/
def Refusal.message : Refusal → String
  | unsupportedDie die => s!"Unsupported table notation: {Text.quote die}"
  | unreadableSides digits => Text.tooManyDigits (some digits)
  | wrongCount name sides entries =>
    s!"Table {Text.quote name} rolls 1D{sides} but has {entries} entries"

/-- The digits behind `1D`; the letter may be small. -/
def sideDigits? : List Char → Option (List Char)
  | '1' :: mark :: digits =>
    if (mark = 'D' ∨ mark = 'd') ∧ digits ≠ [] ∧ digits.all Char.isDigit then some digits else none
  | _ => none

/-- Sets up a table that is rolled with the die given in writing. -/
def ofDie (name die : String) (entries : Array String) : Except Refusal DiceTable :=
  match sideDigits? die.toList with
  | none => .error (.unsupportedDie die)
  | some digits =>
    if Text.maxIntegerDigits < digits.length then .error (.unreadableSides digits.length)
    else
      let sides := Nat.ofDigitChars 10 digits 0
      if sides ≠ entries.size then .error (.wrongCount name sides entries.size)
      else .ok { name, entries }

/-- The sides of the table's die: one per entry. -/
def sides (t : DiceTable) : Nat := t.entries.size

/-- Rolls the table's die and gives the entry of its face. -/
def roll {σ : Type} [DieSource σ] (t : DiceTable) : Rolling σ TableResult := do
  let index ← rollIndex t.sides
  match t.entries[index]? with
  | some body => return { name := t.name, face := index + 1, body }
  | none => throw (.missingEntry t.name (index + 1))

end DiceTable

end ChatDice
