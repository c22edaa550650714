import ChatDice.Game.NinjaSlayer
import ChatDice.Text.Loose

/-!
# ChatDice.Game.Registry — the games by their names

Players and settings choose a game by its name. Names are taken as they are, capitals included.
-/

namespace ChatDice

/-- A game was asked for that there is not. -/
structure UnknownSystem where
  id : LooseText
deriving DecidableEq, Repr

namespace GameSystem

/-- All games, in the order of their names. -/
def registered : List GameSystem :=
  [NinjaSlayer.system]

/-- The game of a name. -/
def find (id : LooseText) : Except UnknownSystem GameSystem :=
  match registered.find? fun sys => .text sys.id == id with
  | some sys => .ok sys
  | none => .error ⟨id⟩

end GameSystem

/-- The refusal in words, with the names that there are. -/
def UnknownSystem.message (e : UnknownSystem) : String :=
  let known := ", ".intercalate (GameSystem.registered.map GameSystem.id)
  s!"Unknown game system {e.id.quote}. Known: {known}"

end ChatDice
