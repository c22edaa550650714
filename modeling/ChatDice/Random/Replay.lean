import ChatDice.Random.DieSource

/-!
# ChatDice.Random.Replay — faces from a list

A source for rehearsed rolls: it goes round a list of numbers and folds each into the faces of the
die at hand.
-/

namespace ChatDice

/-- A list of numbers that is gone round, and how many of them have been taken. -/
structure Replay where
  faces : Array Nat
  taken : Nat := 0
deriving DecidableEq, Repr

namespace Replay

/-- The number whose turn it is; an empty list stands for ones. -/
def current (r : Replay) : Nat :=
  r.faces.getD (r.taken % r.faces.size) 1

/-- The current number, counted round the faces of the die: with six sides, 7 is the one again. -/
def roll (sides : Nat) (r : Replay) : Nat × Replay :=
  ((r.current - 1) % sides + 1, { r with taken := r.taken + 1 })

instance : DieSource Replay := ⟨roll⟩

instance : LawfulDieSource Replay where
  one_le_roll _ _ _ := by simp [DieSource.roll, roll]
  roll_le _ _ h := Nat.mod_lt _ h

end Replay

end ChatDice
