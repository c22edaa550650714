import ChatDice.Dice.Number

/-!
# ChatDice.Dice.Comparison — which faces count as successes

A roll may compare every face with a target. There are six comparisons; three of them have a second
spelling, which is read but never shown.
-/

namespace ChatDice

/-- The six comparisons. -/
inductive CompareOp where
  | ge
  | le
  | gt
  | lt
  | eq
  | ne
deriving DecidableEq, Repr

namespace CompareOp

/-- The sign that a comparison is shown with. -/
def sign : CompareOp → String
  | ge => ">="
  | le => "<="
  | gt => ">"
  | lt => "<"
  | eq => "="
  | ne => "<>"

/-- Takes a sign off the front of a text. Of two signs that fit, the longer one is meant. -/
def read? : List Char → Option (CompareOp × List Char)
  | '>' :: '=' :: rest => some (ge, rest)
  | '=' :: '>' :: rest => some (ge, rest)
  | '<' :: '=' :: rest => some (le, rest)
  | '=' :: '<' :: rest => some (le, rest)
  | '<' :: '>' :: rest => some (ne, rest)
  | '!' :: '=' :: rest => some (ne, rest)
  | '>' :: rest => some (gt, rest)
  | '<' :: rest => some (lt, rest)
  | '=' :: rest => some (eq, rest)
  | _ => none

/-- The comparison of a sign in either spelling. -/
def ofSign? (s : String) : Option CompareOp :=
  match read? s.toList with
  | some (op, []) => some op
  | _ => none

/-- The sign shown for a comparison is read as that comparison. -/
theorem ofSign?_sign (op : CompareOp) : ofSign? op.sign = some op := by
  cases op <;> decide

/-- Whether a face stands in the relation to a target. -/
def holds (op : CompareOp) (face : Nat) (target : Int) : Bool :=
  match op with
  | ge => target ≤ face
  | le => (face : Int) ≤ target
  | gt => target < face
  | lt => (face : Int) < target
  | eq => face == target
  | ne => face != target

end CompareOp

/-- A comparison with its target. -/
structure Comparison where
  op : CompareOp
  target : Int
deriving DecidableEq, Repr

namespace Comparison

/-- The comparison as a command writes it. The target may be one that no command states, since games
have comparisons of their own; it may be too long to be written. -/
def render (c : Comparison) : Except Fault String := do
  return c.op.sign ++ (← writeNumber c.target)

/-- Whether a face is a success. -/
def accepts (c : Comparison) (face : Nat) : Bool :=
  c.op.holds face c.target

end Comparison

end ChatDice
