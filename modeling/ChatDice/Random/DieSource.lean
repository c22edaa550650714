/-!
# ChatDice.Random.DieSource — where die faces come from

A source is a state from which faces are taken one after another. `DieSource` gives the step,
`LawfulDieSource` the only promise that the dice rules need: a die with at least one side shows
one of its faces. Which face it is, the source decides.
-/

namespace ChatDice

/-- A state `σ` that die faces can be taken from. -/
class DieSource (σ : Type) where
  /-- The face of one die with so many sides, and the source after the draw. -/
  roll : (sides : Nat) → σ → Nat × σ

/-- A source whose dice show the numbers from one to the number of their sides. -/
class LawfulDieSource (σ : Type) [DieSource σ] : Prop where
  one_le_roll : ∀ (sides : Nat) (s : σ), 1 ≤ sides → 1 ≤ (DieSource.roll sides s).1
  roll_le : ∀ (sides : Nat) (s : σ), 1 ≤ sides → (DieSource.roll sides s).1 ≤ sides

end ChatDice
