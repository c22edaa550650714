import ChatDice.Dice.BRoll
import ChatDice.Game.Difficulty
import ChatDice.Validation

/-!
# ChatDice.Game.Check — evasion, melee attack and electronic warfare

A check throws some six-sided dice and counts the faces from its difficulty up. Each of the three
kinds reads something more out of the faces, and adds it to the account of the roll:

* an evasion that scores more than the attacker did is a counter-strike;
* a melee attack with two sixes or more is a brutal hit;
* in electronic warfare every six counts for one success more.
-/

namespace ChatDice

/-- The face that brutal hits and bonus successes need. -/
def maxFace : Nat := 6

/-- The kinds of checks. An evasion may know the attacker's successes. -/
inductive CheckKind where
  | evasion (target : Option Nat)
  | meleeAttack
  | electronicWarfare
deriving DecidableEq, Repr

/-- A check of at least one die. -/
structure Check where
  kind : CheckKind
  count : Nat
  difficulty : Difficulty
  count_pos : 0 < count
deriving DecidableEq, Repr

namespace Check

/-- The B roll that throws the check's dice. -/
def command (c : Check) : Except Fault String :=
  successCommand c.count c.difficulty.threshold

/-- The account of the check's roll, and behind it what the kind of the check reads out of the
faces. -/
def annotate (c : Check) (report : RollReport) : String :=
  match c.kind with
  | .evasion target =>
    if target.any (· < report.successes) then joinStages [report.text, "counter-strike"]
    else report.text
  | .meleeAttack =>
    if 2 ≤ report.lastFaces.count maxFace then joinStages [report.text, "brutal hit"]
    else report.text
  | .electronicWarfare =>
    let bonus := report.lastFaces.count maxFace
    if bonus = 0 then report.text
    else
      let successes := report.lastFaces.countP (c.difficulty.threshold ≤ ·)
      joinStages [report.text ++ " + " ++ toString bonus, toString (successes + bonus)]

/-- The name of a kind of check. -/
def kindName : CheckKind → String
  | .evasion _ => "Evasion"
  | .meleeAttack => "MeleeAttack"
  | .electronicWarfare => "ElectronicWarfare"

/-- The check as log records show it. -/
def describe (c : Check) : String :=
  let target := match c.kind with
    | .evasion none => ", target_value=None"
    | .evasion (some n) => s!", target_value={n}"
    | _ => ""
  s!"{kindName c.kind}(num={c.count}, difficulty={c.difficulty.threshold}{target})"

/-! ## Checks from fields -/

/-- A number of dice. -/
def checkCount (given : Json) : Except Complaint { n : Nat // 0 < n } := do
  let n ← checkInteger given
  if h : 0 < n then return ⟨n.toNat, by omega⟩ else throw (.notAbove 0)

/-- A difficulty by its threshold. -/
def checkDifficulty (given : Json) : Except Complaint Difficulty := do
  let n ← checkBetween 2 6 given
  match Difficulty.ofThreshold? n.toNat with
  | some d => return d
  | none => throw (.above 6)

/-- A number of successes. -/
def checkSuccesses (given : Json) : Except Complaint Nat := do
  return (← checkFrom 0 given).toNat

/-- A check of the kind that `kind` makes of a target, from the values given for its fields. -/
def ofFields (kind : Checked CheckKind) (field? : String → Option Json) : Checked Check :=
  let count := requireField "num" checkCount (field? "num")
  let difficulty := requireField "difficulty" checkDifficulty (field? "difficulty")
  match count, difficulty, kind with
  | .ok ⟨count, count_pos⟩, .ok difficulty, .ok kind => .ok { kind, count, difficulty, count_pos }
  | count, difficulty, kind => .error (count.issues ++ difficulty.issues ++ kind.issues)

/-- The kind of an evasion, from the values given for its fields. -/
def evasionOfFields (field? : String → Option Json) : Checked CheckKind :=
  (fieldOr "target_value" none (checkOptional checkSuccesses) (field? "target_value")).map .evasion

end Check

namespace RollReport

/-- A face. Faces below one are no face of a die; like zero, they are neither sixes nor reach any
threshold. -/
def checkFace (given : Json) : Except Complaint Nat := do
  return (← checkInteger given).toNat

/-- The text of a report. -/
def checkAccount (given : Json) : Except Complaint String := do
  match (← checkText given).text? with
  | some s => return s
  | none => throw .brokenText

/-- A report from the values given for its fields. -/
def ofFields (field? : String → Option Json) : Checked RollReport :=
  let text := requireField "text" checkAccount (field? "text")
  let successes := requireField "success_num" Check.checkSuccesses (field? "success_num")
  let faces := requireList "dice_list" checkFace (field? "dice_list")
  let lastFaces := requireList "last_dice_list" checkFace (field? "last_dice_list")
  match text, successes, faces, lastFaces with
  | .ok text, .ok successes, .ok faces, .ok lastFaces => .ok { text, successes, faces, lastFaces }
  | text, successes, faces, lastFaces =>
    .error (text.issues ++ successes.issues ++ faces.issues ++ lastFaces.issues)

end RollReport

end ChatDice
