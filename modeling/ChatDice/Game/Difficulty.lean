import ChatDice.Dice.Fault
import ChatDice.Text.UpperCase

/-!
# ChatDice.Game.Difficulty — how high a die must show

A check counts the faces from a threshold up. There are five difficulties, one for each threshold
from two to six, and each is written by its number or by its letters.

The grammar of commands and the resolver look at a difficulty in different ways: `readToken?` takes
the letters off a command one by one, `resolve` looks a whole text up in a list of capitals.
-/

namespace ChatDice

/-- The five difficulties. -/
inductive Difficulty where
  | kids
  | easy
  | normal
  | hard
  | ultraHard
deriving DecidableEq, Repr

namespace Difficulty

/-- The lowest face that is a success. -/
def threshold : Difficulty → Nat
  | kids => 2
  | easy => 3
  | normal => 4
  | hard => 5
  | ultraHard => 6

/-- The difficulty of a threshold. -/
def ofThreshold? : Nat → Option Difficulty
  | 2 => some kids
  | 3 => some easy
  | 4 => some normal
  | 5 => some hard
  | 6 => some ultraHard
  | _ => none

/-- Each difficulty has a threshold of its own. -/
theorem ofThreshold?_threshold (d : Difficulty) : ofThreshold? d.threshold = some d := by
  cases d <;> rfl

/-- No threshold is the lowest face, and none is above the highest. -/
theorem threshold_mem (d : Difficulty) : 2 ≤ d.threshold ∧ d.threshold ≤ 6 := by
  cases d <;> decide

/-! ## Resolving -/

/-- The difficulties by their letters. -/
def byLetters : List (String × Difficulty) :=
  [("K", kids), ("E", easy), ("N", normal), ("H", hard), ("UH", ultraHard)]

/-- The difficulty of a digit. -/
def ofDigit? (token : String) : Option Difficulty :=
  match token.toList with
  | [c] => if c.isDigit then ofThreshold? (c.toNat - '0'.toNat) else none
  | _ => none

/-- The difficulty that a token names, by its digit or by its letters in either case; without a
token, the normal one. Letters are looked up in the capitals of every script. -/
def resolve : Option String → Except Fault Difficulty
  | none => .ok normal
  | some token =>
    match ofDigit? token with
    | some d => .ok d
    | none =>
      match byLetters.lookup (Text.upperCase token) with
      | some d => .ok d
      | none => .error (.unknownDifficulty token)

/-! ## Difficulties in commands -/

/-- Takes the token of a difficulty off the front of a text. The only token of two letters is tried
first. -/
def readToken? : List Char → Option (List Char × List Char)
  | [] => none
  | [c] => if c ∈ "23456KENHkenh".toList then some ([c], []) else none
  | c :: d :: rest =>
    if (c = 'U' ∨ c = 'u') ∧ (d = 'H' ∨ d = 'h') then some ([c, d], rest)
    else if c ∈ "23456KENHkenh".toList then some ([c], d :: rest)
    else none

/-- Takes a difficulty off the front of a text, as `[d]` or `@d`; a text that starts with neither is
left as it is. -/
def readSuffix (cs : List Char) : Option (List Char) × List Char :=
  match cs with
  | '[' :: inner =>
    match readToken? inner with
    | some (token, ']' :: rest) => (some token, rest)
    | _ => (none, cs)
  | '@' :: inner =>
    match readToken? inner with
    | some (token, rest) => (some token, rest)
    | none => (none, cs)
  | _ => (none, cs)

/-- The difficulty of a suffix that `readSuffix` found, or failed to find. -/
def ofSuffix (token : Option (List Char)) : Except Fault Difficulty :=
  resolve (token.map String.ofList)

end Difficulty

end ChatDice
