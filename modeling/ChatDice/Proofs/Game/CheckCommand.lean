import ChatDice.Proofs.Dice.Meaning
import ChatDice.Proofs.Game.Check
import ChatDice.Proofs.Game.Rendering

/-!
# ChatDice.Proofs.Game.CheckCommand — every check can be rolled

A check throws its dice through a command: `Check.command` writes a B roll down, and the evaluation
of B rolls reads it again. Two parts of the program have to agree for that. What is written must
have the form of a B roll, its group must have dice, and it must not come to nothing, since a check
has no answer of its own to give in the place of a report.

`Check.eval_command` says that they agree for every check, also for those of so many dice that no
command states them. The command of a check is its roll, or its number of dice is refused; it never
has no answer. A program may make checks of still more dice, and a number with more digits than
texts may hold cannot be written in the first place.
-/

namespace ChatDice

namespace Check

/-- The roll of a check. -/
def roll (c : Check) : BRoll :=
  SuccessRoll.roll c.count c.difficulty.threshold

@[simp] theorem length_dice_roll (c : Check) : c.roll.dice.length = c.count := by
  simp [roll]

/-- A comparison that is stated is not looked for anywhere else. -/
theorem withFallback_roll (c : Check) (fallback : Option Fallback) :
    c.roll.withFallback fallback = .ok c.roll := rfl

/-- The command that is written for a check of so few dice is read as the check's roll. -/
theorem exists_command {c : Check} (hcount : c.count < 10 ^ maxDigits) :
    ∃ command, c.command = .ok command ∧ BRoll.read command.toList = .ok (.roll c.roll) :=
  ⟨_, command_of_writable (writable_of_lt hcount),
    SuccessRoll.read_command c.count_pos hcount c.difficulty.threshold_lt⟩

/-- No check that is read has more dice than can be read. -/
theorem count_lt_of_read {cs : List Char} {c : Check} (h : read cs = .ok (.check c)) :
    c.count < 10 ^ maxDigits := by
  cases read_eq_check_iff.mp h with
  | intro _ _ hbound => exact hbound

section
variable {σ : Type} [DieSource σ]

/-- Evaluates the command that a check writes, with a comparison for rolls that state none. -/
def rollCommand (c : Check) (fallback : Option Fallback) : Rolling σ (Option RollReport) := do
  BRoll.eval (← Rolling.ofExcept c.command) fallback

theorem run_rollCommand {c : Check} {command : String} (hcommand : c.command = .ok command)
    (fallback : Option Fallback) (r : Roller σ) :
    (c.rollCommand fallback).run r = (BRoll.eval command fallback).run r := by
  rw [rollCommand, hcommand]
  rfl

/-- A roll that finds room is thrown, whatever comparison is given with it. -/
theorem exists_run_rollCommand {c : Check} (hcount : c.count < 10 ^ maxDigits)
    (fallback : Option Fallback) {r : Roller σ} (hroom : c.count ≤ r.room) :
    ∃ report s, (c.rollCommand fallback).run r = .ok (some report) s ∧
      c.roll.ComesTo r report s := by
  have hfits : c.roll.dice.length ≤ r.room := by rwa [length_dice_roll]
  have hwritable : c.roll.Writable := SuccessRoll.writable_roll c.difficulty.threshold_lt c.count
  obtain ⟨command, hcommand, hread⟩ := exists_command hcount
  obtain ⟨s, hrun, hs⟩ :=
    BRoll.exists_run_eval hread (c.withFallback_roll fallback) hwritable hfits
  exact ⟨_, s, (run_rollCommand hcommand fallback r).trans hrun, c.roll.comesTo_writtenReport hs⟩

theorem exists_run_rollCommand_of_lt {c : Check} (hcount : c.count < 10 ^ maxDigits)
    (fallback : Option Fallback) {r : Roller σ} (hroom : r.room < c.count) :
    ∃ s, (c.rollCommand fallback).run r = .error (.drawLimit r.limit) s := by
  have hlimit : r.room < c.roll.dice.length := by rwa [length_dice_roll]
  obtain ⟨command, hcommand, hread⟩ := exists_command hcount
  obtain ⟨s, hrun, -⟩ := BRoll.exists_run_eval_of_lt fallback hread hlimit
  exact ⟨s, (run_rollCommand hcommand fallback r).trans hrun⟩

/-- A number that is written and too large to be read is refused before anything is drawn. -/
theorem run_rollCommand_of_le {c : Check} (hlarge : 10 ^ maxDigits ≤ c.count)
    (hwritable : Writable c.count) (fallback : Option Fallback) (r : Roller σ) :
    (c.rollCommand fallback).run r = .error (.numberTooLarge (toString c.count).length) r := by
  rw [run_rollCommand (command_of_writable hwritable)]
  exact BRoll.run_eval_of_error fallback
    (SuccessRoll.read_command_of_le hlarge c.difficulty.threshold_lt) r

/-- A number that cannot be written is no command, and nothing is drawn either. -/
theorem run_rollCommand_of_not_writable {c : Check} (hlong : ¬Writable c.count)
    (fallback : Option Fallback) (r : Roller σ) :
    (c.rollCommand fallback).run r = .error .unwritableNumber r := by
  rw [rollCommand, command_of_not_writable hlong]
  rfl

/-- There is always a report or a fault that tells of too many dice. -/
theorem run_rollCommand_cases (c : Check) (fallback : Option Fallback) (r : Roller σ) :
    (∃ report s, (c.rollCommand fallback).run r = .ok (some report) s) ∨
      ∃ fault s, (c.rollCommand fallback).run r = .error fault s ∧
        (fault.isExcess = true ∨ fault = .unwritableNumber) := by
  rcases Nat.lt_or_ge c.count (10 ^ maxDigits) with hcount | hlarge
  · rcases Nat.lt_or_ge r.room c.count with hroom | hroom
    · obtain ⟨s, hrun⟩ := exists_run_rollCommand_of_lt hcount fallback hroom
      exact .inr ⟨_, s, hrun, .inl rfl⟩
    · obtain ⟨report, s, hrun, -⟩ := exists_run_rollCommand hcount fallback hroom
      exact .inl ⟨report, s, hrun⟩
  · by_cases hwritable : Writable c.count
    · exact .inr ⟨_, r, run_rollCommand_of_le hlarge hwritable fallback r, .inl rfl⟩
    · exact .inr ⟨_, r, run_rollCommand_of_not_writable hwritable fallback r, .inr rfl⟩

/-- A game that carries a check out has a report to annotate, or there are too many dice: it never
comes to a command without an answer. -/
theorem run_perform_check (c : Check) (r : Roller σ) :
    (∃ text s, (GameSystem.perform (.check c)).run r = .ok text s) ∨
      ∃ fault s, (GameSystem.perform (.check c)).run r = .error fault s ∧
        (fault.isExcess = true ∨ fault = .unwritableNumber) := by
  by_cases hwritable : Writable c.count
  · have hcommand := command_of_writable hwritable
    rcases c.run_rollCommand_cases none r with ⟨report, s, hrun⟩ | ⟨fault, s, hrun, hexcess⟩
    · rw [run_rollCommand hcommand] at hrun
      refine .inl ⟨c.annotate report, s, ?_⟩
      simp only [GameSystem.perform, hcommand, Rolling.ofExcept, pure_bind, EStateM.run_bind, hrun]
      rfl
    · rw [run_rollCommand hcommand] at hrun
      refine .inr ⟨fault, s, ?_, hexcess⟩
      simp only [GameSystem.perform, hcommand, Rolling.ofExcept, pure_bind, EStateM.run_bind, hrun]
  · refine .inr ⟨.unwritableNumber, r, ?_, .inr rfl⟩
    rw [GameSystem.perform, command_of_not_writable hwritable]
    rfl

/-- The faces from the difficulty up are the successes. -/
theorem successes_of_comesTo {c : Check} {r s : Roller σ} {report : RollReport}
    (h : c.roll.ComesTo r report s) :
    report.successes = report.faces.countP (c.difficulty.threshold ≤ ·) := by
  rw [h.successes]
  simp [roll, SuccessRoll.roll, Comparison.successes, CompareOp.Relates]

/-- Every check can be rolled through its command, from any roller and whatever comparison is given
for rolls without one: it never has no answer. Below `10 ^ 18` dice the command is read as that many
six-sided dice against the difficulty. They are thrown and judged if the record has room for all of
them, and exceed the limit exactly if it has not. From `10 ^ 18` dice on the number is refused
before anything is drawn, as long as it can be written; if it has more digits than texts may hold,
there is no command, and nothing is drawn either. A check that was read from a command has less than
`10 ^ 18` dice. -/
theorem eval_command (c : Check) (fallback : Option Fallback) (r : Roller σ) :
    (∀ s, (c.rollCommand fallback).run r ≠ .ok none s) ∧
      (c.count < 10 ^ 18 →
        (∃ command, c.command = .ok command ∧
          BRoll.read command.toList =
            .ok (.roll ⟨[⟨c.count, 6⟩], some ⟨.ge, c.difficulty.threshold⟩⟩)) ∧
          (c.count ≤ r.room →
            ∃ report s, (c.rollCommand fallback).run r = .ok (some report) s ∧
              report.faces = DieSource.faces (List.replicate c.count 6) r.source ∧
              report.successes = report.faces.countP (c.difficulty.threshold ≤ ·) ∧
              BRoll.ComesTo ⟨[⟨c.count, 6⟩], some ⟨.ge, c.difficulty.threshold⟩⟩ r report s) ∧
          ((∃ s, (c.rollCommand fallback).run r = .error (.drawLimit r.limit) s) ↔
            r.room < c.count)) ∧
      (10 ^ 18 ≤ c.count → c.count < 10 ^ Text.maxIntegerDigits →
        (∃ command, c.command = .ok command) ∧
          (c.rollCommand fallback).run r =
            .error (.numberTooLarge (toString c.count).length) r) ∧
      (10 ^ Text.maxIntegerDigits ≤ c.count →
        c.command = .error .unwritableNumber ∧
          (c.rollCommand fallback).run r = .error .unwritableNumber r) ∧
      ∀ cs : List Char, read cs = .ok (.check c) → c.count < 10 ^ 18 := by
  refine ⟨?_, ?_, ?_, ?_, fun cs h => count_lt_of_read h⟩
  · intro s hnone
    rcases c.run_rollCommand_cases fallback r with ⟨report, t, hrun⟩ | ⟨fault, t, hrun, -⟩
    · rw [hrun] at hnone
      cases hnone
    · rw [hrun] at hnone
      cases hnone
  · intro hcount
    refine ⟨exists_command hcount, ?_, ?_, exists_run_rollCommand_of_lt hcount fallback⟩
    · intro hroom
      obtain ⟨report, s, hrun, hcomes⟩ := exists_run_rollCommand hcount fallback hroom
      refine ⟨report, s, hrun, ?_, successes_of_comesTo hcomes, hcomes⟩
      rw [hcomes.faces, roll, SuccessRoll.dice_roll]
    · rintro ⟨s, herror⟩
      by_contra hroom
      obtain ⟨report, t, hrun, -⟩ := exists_run_rollCommand hcount fallback (Nat.not_lt.mp hroom)
      rw [hrun] at herror
      cases herror
  · intro hlarge hshort
    have hwritable : Writable c.count := writable_natCast.mpr hshort
    exact ⟨⟨_, command_of_writable hwritable⟩,
      run_rollCommand_of_le hlarge hwritable fallback r⟩
  · intro hlong
    have hnot : ¬Writable c.count := fun h => Nat.not_lt.mpr hlong (writable_natCast.mp h)
    exact ⟨command_of_not_writable hnot, run_rollCommand_of_not_writable hnot fallback r⟩

/-- Two dice, with room for two and with room for one; the least number of dice that is not read,
and the least that is not written. The comparison that is given is none, and nobody looks at it. -/
theorem eval_command_by_room :
    let c : Check := ⟨.meleeAttack, 2, .hard, by decide⟩
    let horde : Check := ⟨.electronicWarfare, 10 ^ 18, .kids, by decide⟩
    let crowd : Check :=
      ⟨.evasion none, 10 ^ Text.maxIntegerDigits, .normal, Nat.pow_pos (by decide)⟩
    let r : Roller Replay :=
      { source := { faces := #[6, 2, 5], taken := 1 }, limit := 3, record := #[⟨6, 6⟩] }
    (∃ report s, (c.rollCommand (some ⟨"?", 7⟩)).run r = .ok (some report) s ∧
      report.faces = [2, 5] ∧ report.successes = 1) ∧
    (∃ s, (c.rollCommand (some ⟨"?", 7⟩)).run { r with limit := 2 } =
      .error (.drawLimit 2) s) ∧
    (horde.rollCommand (some ⟨"?", 7⟩)).run r = .error (.numberTooLarge 19) r ∧
    (crowd.rollCommand (some ⟨"?", 7⟩)).run r = .error .unwritableNumber r := by
  intro c horde crowd r
  refine ⟨?_, ?_, ?_, ?_⟩
  · obtain ⟨-, hthrown, -⟩ := c.eval_command (some ⟨"?", 7⟩) r
    obtain ⟨report, s, hrun, hfaces, hsuccesses, -⟩ := (hthrown (by decide)).2.1 (by decide)
    have hshown : report.faces = [2, 5] := hfaces
    exact ⟨report, s, hrun, hshown, by rw [hsuccesses, hshown]; decide⟩
  · obtain ⟨-, hthrown, -⟩ := c.eval_command (some ⟨"?", 7⟩) { r with limit := 2 }
    exact (hthrown (by decide)).2.2.mpr (by decide)
  · obtain ⟨-, -, hrefused, -⟩ := horde.eval_command (some ⟨"?", 7⟩) r
    have hshort : 10 ^ 18 < 10 ^ Text.maxIntegerDigits :=
      Nat.pow_lt_pow_right (by decide) (by decide)
    have hlength : (toString horde.count).length = 19 := by decide +kernel
    rw [(hrefused (by decide) hshort).2, hlength]
  · obtain ⟨-, -, -, hunwritten, -⟩ := crowd.eval_command (some ⟨"?", 7⟩) r
    exact (hunwritten (Nat.le_refl _)).2

/-- A number of dice may be too large to be refused for its size: there is no command to read it
from. -/
theorem not_numberTooLarge_of_long_count :
    let crowd : Check :=
      ⟨.meleeAttack, 10 ^ Text.maxIntegerDigits, .normal, Nat.pow_pos (by decide)⟩
    let r : Roller Replay := { source := { faces := #[1] }, limit := 10 }
    10 ^ 18 ≤ crowd.count ∧ (crowd.rollCommand none).run r = .error .unwritableNumber r ∧
      ∀ digits s, (crowd.rollCommand none).run r ≠ .error (.numberTooLarge digits) s := by
  intro crowd r
  have hlarge : 10 ^ 18 ≤ crowd.count := Nat.pow_le_pow_right (by decide) (by decide)
  have hlong : ¬Writable crowd.count := fun h => Nat.lt_irrefl _ (writable_natCast.mp h)
  have hrun : (crowd.rollCommand none).run r = .error .unwritableNumber r :=
    run_rollCommand_of_not_writable hlong none r
  refine ⟨hlarge, hrun, ?_⟩
  intro digits s h
  rw [hrun] at h
  cases h

end

end Check

end ChatDice
