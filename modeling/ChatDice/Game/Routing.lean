/-!
# ChatDice.Game.Routing — which messages are worth evaluating

A chat sees many messages, and few of them are commands. A game announces how its commands start:
with one of its prefixes, or with the start of a B roll, either of them behind the flag of a secret
roll. The start decides only that a message is looked at, not that it is a command.

The alternatives are tried in the order of the prefixes, with the B roll behind them; the flag is
tried as present first.
-/

namespace ChatDice.Routing

/-- The longest start of a B roll at the front of a text: digits, the letter, digits. -/
def commonStart? (cs : List Char) : Option (List Char) :=
  let times := cs.takeWhile Char.isDigit
  match times, cs.dropWhile Char.isDigit with
  | _ :: _, mark :: rest =>
    let sides := rest.takeWhile Char.isDigit
    if (mark = 'B' ∨ mark = 'b') ∧ sides ≠ [] then some (times ++ mark :: sides) else none
  | _, _ => none

/-- The first prefix at the front of a text, or else the start of a B roll. -/
def unflaggedStart? (prefixes : List String) (cs : List Char) : Option (List Char) :=
  match prefixes.find? fun p => p.toList.isPrefixOf cs with
  | some p => some p.toList
  | none => commonStart? cs

/-- The start of a command at the front of a text, with the flag if one was taken. -/
def start? (prefixes : List String) (cs : List Char) : Option (List Char) :=
  match cs with
  | 'S' :: rest =>
    match unflaggedStart? prefixes rest with
    | some start => some ('S' :: start)
    | none => unflaggedStart? prefixes cs
  | _ => unflaggedStart? prefixes cs

end ChatDice.Routing
