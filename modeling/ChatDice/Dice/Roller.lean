import ChatDice.Dice.Fault
import ChatDice.Log.Record
import ChatDice.Random.DieSource

/-!
# ChatDice.Dice.Roller — rolling dice on record

A roller takes faces from a die source and writes every draw down, so that a result can show what
was rolled. The record also limits the draws: a roller gives out no more dice than its limit until
it is reset, which happens before each command.

`Rolling` is the monad of evaluations. Its state is a roller and survives a fault, because draws
made before the fault have been taken from the source and stay on record. Log records are part of
the state and of nothing else: no operation reads them.

* `rollDie`, `rollDice`, `rollIndex` — one die, several dice, a die as an index;
* `resetRecord` — forgets the draws of the command before;
* `note` — leaves a log record behind.
-/

namespace ChatDice

/-! ## Rollers -/

/-- One draw: the face shown, and the number of sides of the die. -/
structure Draw where
  face : Nat
  sides : Nat
deriving DecidableEq, Repr

/-- A die source, the draws made since the last reset, and how many of them are allowed. -/
structure Roller (σ : Type) where
  source : σ
  limit : Nat
  record : Array Draw := #[]
  log : Array Log.Record := #[]

/-- A roller was asked for that may not roll a single die. -/
structure LimitNotPositive where
  limit : Int
deriving DecidableEq, Repr

/-- The refusal in words. -/
def LimitNotPositive.message (e : LimitNotPositive) : String :=
  Text.sayInteger e.limit fun digits => s!"max_rands must be positive, got {digits}"

namespace Roller

/-- How many draws a command may make unless the settings say otherwise. -/
def defaultLimit : Int := 10000

/-- A roller that has drawn nothing yet. Its limit must be positive. -/
def ofSource {σ : Type} (source : σ) (limit : Int := defaultLimit) :
    Except LimitNotPositive (Roller σ) :=
  if limit ≤ 0 then .error ⟨limit⟩ else .ok { source, limit := limit.toNat }

end Roller

/-! ## Evaluations -/

/-- Evaluations that roll dice: they answer or fail, and leave a roller behind either way. -/
abbrev Rolling (σ : Type) := EStateM Fault (Roller σ)

section
variable {σ : Type}

/-- Goes on with a value, or fails with its fault. -/
def Rolling.ofExcept {α : Type} : Except Fault α → Rolling σ α
  | .ok a => pure a
  | .error e => throw e

/-- Leaves a log record behind. -/
def note (level : Log.Level) (site : Log.Site) (message : String) : Rolling σ Unit :=
  modify fun r => { r with log := r.log.push { site, level, message } }

/-- Forgets the draws of the command before, so that the next one has the whole limit. -/
def resetRecord : Rolling σ Unit :=
  modify fun r => { r with record := #[] }

/-- Where a draw beyond the limit is logged. -/
def siteOfLimit : Log.Site := ⟨"njdice.dice.randomizer", "roll_once", 62⟩

variable [DieSource σ]

/-- Rolls one die. The number of sides is looked at first, then the limit; a draw that is refused
takes nothing from the source. -/
def rollDie (sides : Int) : Rolling σ Nat := do
  if sides < 1 then
    throw (.dieWithoutSides sides)
  let r ← get
  -- Both refusals come before the draw, so the source is still where it was.
  if r.limit ≤ r.record.size then
    note .warning siteOfLimit s!"Draw limit of {r.limit} reached"
    throw (.drawLimit r.limit)
  modifyGet fun r =>
    let (face, source) := DieSource.roll sides.toNat r.source
    (face, { r with source, record := r.record.push ⟨face, sides.toNat⟩ })

/-- Rolls some dice of one kind, behind faces already rolled, the latest of them first. -/
def rollDiceAfter (sides : Int) : Nat → List Nat → Rolling σ (List Nat)
  | 0, rolled => pure rolled.reverse
  | n + 1, rolled => do
    let face ← rollDie sides
    rollDiceAfter sides n (face :: rolled)

/-- Rolls some dice of one kind and gives their faces in the order rolled. A number of dice that is
not positive rolls none. -/
def rollDice (times sides : Int) : Rolling σ (List Nat) :=
  rollDiceAfter sides times.toNat []

/-- Rolls one die and counts its faces from zero. -/
def rollIndex (sides : Int) : Rolling σ Nat := do
  return (← rollDie sides) - 1

end

end ChatDice
