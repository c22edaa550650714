import ChatDice.Game.GameSystem
import ChatDice.Proofs.Dice.Plan

/-!
# ChatDice.Proofs.Game.Plan — what a game's commands ask for

The plan of a command is put together like its evaluation: the game's own commands come before B
rolls, and a command is tried with the flag of a secret roll before it is tried without. No part of
a plan depends on the roller, so neither the faces nor the commands before decide what is done.

`GameSystem.outcome_handle` and `GameSystem.outcome_eval` say in closed form what a command comes
to: behind the gate the record is emptied, the dice of the plan are drawn, and the record of the
result is what they drew. Whatever is proved about evaluations below is proved from these two.
-/

namespace ChatDice

/-! ## Plans of commands -/

/-- The entry of a table for a face, as it is shown. -/
def DiceTable.entryFor (t : DiceTable) (face : Nat) : Except Fault String :=
  match t.entries[face - 1]? with
  | some body => .ok (TableResult.render ⟨t.name, face - 1 + 1, body⟩)
  | none => .error (.missingEntry t.name (face - 1 + 1))

/-- What rolling on a table asks for. -/
def DiceTable.plan (t : DiceTable) : Plan String :=
  if t.sides = 0 then .refuse (.dieWithoutSides 0)
  else .throwing [t.sides] fun faces => t.entryFor (faces.headD 0)

/-- What a check asks for: the dice of its B roll, which it must be able to write and which must be
a roll. -/
def Check.plan (c : Check) : Plan String :=
  match c.command with
  | .error fault => .refuse fault
  | .ok command =>
    ((BRoll.plan command none).map c.annotate).orElse (.refuse (.unrolledCheck command))

/-- What a check makes of draws is the annotated report of the roll that it writes. -/
theorem Check.exists_of_makes {c : Check} {draws : List Draw} {text : String}
    (h : c.plan.Makes draws text) :
    ∃ command report, c.command = .ok command ∧ (BRoll.plan command none).Makes draws report ∧
      c.annotate report = text := by
  unfold plan at h
  cases hcommand : c.command with
  | error fault =>
    rw [hcommand] at h
    cases h
  | ok command =>
    rw [hcommand] at h
    obtain ⟨report, hreport, htext⟩ := Plan.Makes.of_map h.of_orElse_refuse
    exact ⟨command, report, rfl, hreport, htext⟩

/-- What one die behind a label asks for. -/
def diePlan (label : String) (sides : Int) : Plan String :=
  if sides < 1 then .refuse (.dieWithoutSides sides)
  else .throwing [sides.toNat] fun faces =>
    (writeNumber (faces.headD 0 : Nat)).map fun face => joinStages [label, face]

/-- What a command of a game's own asks for. -/
def SpecialCommand.plan : SpecialCommand → Plan String
  | .table t => t.plan
  | .check c => c.plan
  | .die label sides => diePlan label sides

namespace GameSystem

/-- What a command asks for as one of the game's own. -/
def specialPlan (sys : GameSystem) (command : String) : Plan String :=
  match (sys.special command).command with
  | .error fault => .refuse fault
  | .ok none => .pass
  | .ok (some special) => special.plan

/-- What a command asks for as a B roll. -/
def commonPlan (sys : GameSystem) (command : String) : Plan String :=
  (BRoll.plan command sys.fallback?).map RollReport.text

/-- What a command asks for as it stands. -/
def answerPlan (sys : GameSystem) (command : String) : Plan String :=
  (sys.specialPlan command).orElse (sys.commonPlan command)

/-- What a command asks for without the flag of a secret roll; one without the flag for nothing. -/
def secretPlan (sys : GameSystem) (command : String) : Plan String :=
  match command.toList with
  | 'S' :: unflagged => sys.answerPlan (String.ofList unflagged)
  | _ => .pass

/-- What a command asks for, and whether it does so in secret. -/
def plan (sys : GameSystem) (command : String) : Plan (String × Bool) :=
  match sys.expand command with
  | .error fault => .refuse fault
  | .ok command =>
    ((sys.answerPlan command).map (·, false)).orElse ((sys.secretPlan command).map (·, true))

theorem secretPlan_of_flag {sys : GameSystem} {command : String} {unflagged : List Char}
    (h : command.toList = 'S' :: unflagged) :
    sys.secretPlan command = sys.answerPlan (String.ofList unflagged) := by
  simp [secretPlan, h]

theorem secretPlan_of_no_flag {sys : GameSystem} {command : String}
    (h : ∀ unflagged, command.toList ≠ 'S' :: unflagged) : sys.secretPlan command = .pass := by
  unfold secretPlan
  split
  · rename_i unflagged heq
    exact absurd heq (h unflagged)
  · rfl

/-- What a plan comes to with an empty record, and the result with the record of its draws. -/
def carryOut {σ : Type} [DieSource σ] (p : Plan (String × Bool)) (r : Roller σ) :
    EStateM.Result Fault (Roller σ) (Option CommandResult) :=
  match p.result r.cleared with
  | .ok answer s =>
    .ok (answer.map fun (text, secret) => { text, secret, draws := s.record.toList }) s
  | .error fault s => .error fault s

end GameSystem

/-! ## Every die of a plan has sides -/

theorem DiceTable.plan_throwable (t : DiceTable) : t.plan.Throwable := by
  unfold plan
  split
  · exact Plan.throwable_refuse _
  · rename_i hsides
    intro n hn
    simp only [Plan.dice, List.mem_singleton] at hn
    omega

theorem Check.plan_throwable (c : Check) : c.plan.Throwable := by
  unfold plan
  split
  · exact Plan.throwable_refuse _
  · rename_i command _
    exact ((BRoll.plan_throwable command none).map c.annotate).orElse (Plan.throwable_refuse _)

theorem diePlan_throwable (label : String) (sides : Int) : (diePlan label sides).Throwable := by
  unfold diePlan
  split
  · exact Plan.throwable_refuse _
  · rename_i hsides
    intro n hn
    simp only [Plan.dice, List.mem_singleton] at hn
    omega

theorem SpecialCommand.plan_throwable (special : SpecialCommand) : special.plan.Throwable := by
  cases special with
  | table t => exact t.plan_throwable
  | check c => exact c.plan_throwable
  | die label sides => exact diePlan_throwable label sides

namespace GameSystem

theorem answerPlan_throwable (sys : GameSystem) (command : String) :
    (sys.answerPlan command).Throwable := by
  apply Plan.Throwable.orElse
  · unfold specialPlan
    split
    · exact Plan.throwable_refuse _
    · exact Plan.throwable_pass
    · exact SpecialCommand.plan_throwable _
  · exact (BRoll.plan_throwable command sys.fallback?).map RollReport.text

theorem plan_throwable (sys : GameSystem) (command : String) : (sys.plan command).Throwable := by
  unfold plan
  split
  · exact Plan.throwable_refuse _
  · rename_i expanded _
    apply Plan.Throwable.orElse
    · exact (sys.answerPlan_throwable expanded).map _
    · apply Plan.Throwable.map
      unfold secretPlan
      split
      · exact sys.answerPlan_throwable _
      · exact Plan.throwable_pass

end GameSystem

/-! ## Evaluating a command is carrying out its plan -/

section
variable {σ : Type} [DieSource σ]

theorem DiceTable.alike_roll (t : DiceTable) :
    Rolling.Alike ((fun entry => some entry.render) <$> (t.roll : Rolling σ TableResult))
      t.plan.perform := by
  unfold plan roll rollIndex
  split
  · -- A table without entries rolls a die without sides.
    rename_i hsides
    rw [hsides, Int.natCast_zero, rollDie_of_lt_one (by decide)]
    exact Rolling.alike_throw _
  · simp only [Plan.perform, rollEach, bind_assoc, pure_bind, map_bind]
    apply (alike_rollDie _).bind
    intro face
    simp only [List.headD_cons, entryFor]
    cases t.entries[face - 1]? with
    | some body => exact Rolling.alike_pure _
    | none => exact Rolling.alike_throw _

theorem Check.alike_perform (c : Check) :
    Rolling.Alike (some <$> (GameSystem.perform (.check c) : Rolling σ String)) c.plan.perform := by
  rw [GameSystem.perform, plan]
  cases hcommand : c.command with
  | error fault => exact Rolling.alike_throw fault
  | ok command =>
    simp only [Rolling.ofExcept, pure_bind, Plan.perform_orElse, Plan.perform_map, map_bind,
      bind_map_left]
    apply (BRoll.alike_eval command none).bind
    intro report
    cases report with
    | none => exact Rolling.alike_throw _
    | some report => exact Rolling.alike_pure _

theorem alike_diePlan (label : String) (sides : Int) :
    Rolling.Alike (some <$> (GameSystem.perform (.die label sides) : Rolling σ String))
      (diePlan label sides).perform := by
  rw [GameSystem.perform, diePlan]
  split
  · rename_i hsides
    rw [rollDie_of_lt_one hsides]
    exact Rolling.alike_throw _
  · rename_i hsides
    have hcast : ((sides.toNat : Nat) : Int) = sides := Int.toNat_of_nonneg (by omega)
    simp only [Plan.perform, rollEach, bind_assoc, pure_bind, map_bind, hcast]
    apply (alike_rollDie _).bind
    intro face
    simp only [List.headD_cons]
    cases writeNumber (face : Nat) with
    | ok digits => exact Rolling.alike_pure _
    | error fault => exact Rolling.alike_throw fault

namespace GameSystem

/-- Doing what a command of a game's own asks for is carrying out its plan. -/
theorem alike_perform (special : SpecialCommand) :
    Rolling.Alike (some <$> (perform special : Rolling σ String)) special.plan.perform := by
  cases special with
  | table t =>
    have h := t.alike_roll (σ := σ)
    rw [perform]
    simpa [SpecialCommand.plan] using h
  | check c => exact c.alike_perform
  | die label sides => exact alike_diePlan label sides

omit [DieSource σ] in
theorem alike_noteAll (records : List Log.Record) :
    Rolling.Alike (noteAll records : Rolling σ Unit) (pure ()) := by
  intro r s hrs
  exact congrArg (EStateM.Result.ok ()) hrs

theorem alike_answerSpecial (sys : GameSystem) (command : String) :
    Rolling.Alike (sys.answerSpecial command : Rolling σ (Option String))
      (sys.specialPlan command).perform := by
  unfold answerSpecial specialPlan
  rw [← pure_bind () fun _ => Plan.perform _]
  apply (alike_noteAll _).bind
  intro _
  cases (sys.special command).command with
  | error fault => exact Rolling.alike_throw fault
  | ok reading =>
    cases reading with
    | none => exact Rolling.alike_pure none
    | some special =>
      have h := alike_perform (σ := σ) special
      simpa [Rolling.ofExcept] using h

theorem alike_answerCommon (sys : GameSystem) (command : String) :
    Rolling.Alike (sys.answerCommon command : Rolling σ (Option String))
      (sys.commonPlan command).perform := by
  unfold answerCommon commonPlan
  rw [Plan.perform_map]
  have h := (BRoll.alike_eval (σ := σ) command sys.fallback?).map (Option.map RollReport.text)
  simpa using h

theorem alike_answer (sys : GameSystem) (command : String) :
    Rolling.Alike (sys.answer command : Rolling σ (Option String))
      (sys.answerPlan command).perform := by
  unfold answer answerPlan
  rw [Plan.perform_orElse]
  apply (sys.alike_answerSpecial command).bind
  intro text
  cases text with
  | some text => exact Rolling.alike_pure _
  | none => exact sys.alike_answerCommon command

/-! ## Results -/

/-- The result of an answer, with the draws on record. -/
def report : Option (String × Bool) → Rolling σ (Option CommandResult)
  | some (text, secret) => do
    let r ← get
    return some { text, secret, draws := r.record.toList }
  | none => return none

omit [DieSource σ] in
theorem alike_report (answer : Option (String × Bool)) :
    Rolling.Alike (report answer : Rolling σ (Option CommandResult)) (report answer) := by
  cases answer with
  | none => exact Rolling.alike_pure none
  | some found =>
    apply Rolling.alike_self_of_unlogged
    intro r
    rfl

omit [DieSource σ] in
theorem alike_conclude (sys : GameSystem) (command text : String) (secret : Bool) :
    Rolling.Alike (sys.conclude command text secret : Rolling σ (Option CommandResult))
      (report (some (text, secret))) :=
  (alike_report (some (text, secret))).note_bind _ _ _

omit [DieSource σ] in
theorem alike_passOver (sys : GameSystem) (command : String) :
    Rolling.Alike (sys.passOver command : Rolling σ (Option CommandResult)) (report none) :=
  (Rolling.alike_pure none).note_bind _ _ _

/-- Evaluating a command behind the gate is carrying out its plan with an empty record. -/
theorem alike_handle (sys : GameSystem) (command : String) :
    Rolling.Alike (sys.handle command : Rolling σ (Option CommandResult))
      (resetRecord >>= fun _ => (sys.plan command).perform >>= report) := by
  unfold handle plan
  apply Rolling.alike_resetRecord.bind
  intro _
  cases sys.expand command with
  | error fault => exact Rolling.alike_throw fault
  | ok expanded =>
    simp only [Rolling.ofExcept, pure_bind, Plan.perform_orElse, Plan.perform_map, bind_map_left,
      bind_assoc]
    apply (sys.alike_answer expanded).bind
    intro text
    cases text with
    | some text =>
      simp only [Option.map_some, pure_bind]
      exact sys.alike_conclude expanded text false
    | none =>
      -- Without an answer the flag decides whether there is a second try.
      simp only [Option.map_none, bind_map_left]
      split
      · rename_i unflagged hflag
        rw [secretPlan_of_flag hflag]
        apply (sys.alike_answer _).bind
        intro text
        cases text with
        | some text => exact sys.alike_conclude expanded text true
        | none => exact sys.alike_passOver expanded
      · rename_i hflag
        rw [secretPlan_of_no_flag hflag]
        exact sys.alike_passOver expanded

/-- What a command behind the gate comes to. -/
theorem outcome_handle (sys : GameSystem) (command : String) (r : Roller σ) :
    Rolling.outcome (sys.handle command) r = withoutLog (carryOut (sys.plan command) r) := by
  have hreset : Rolling.outcome resetRecord r = .ok () r.cleared.unlogged := rfl
  -- The reset, the plan and the report follow each other, so their outcomes do.
  rw [(sys.alike_handle command).outcome_eq,
    Rolling.outcome_bind _ fun _ => (Plan.alike_perform _).bind alike_report, hreset]
  simp only
  rw [Rolling.outcome_bind _ alike_report, Plan.outcome_perform (sys.plan_throwable command),
    Plan.result_unlogged, withoutLog_withoutLog, carryOut]
  cases (sys.plan command).result r.cleared with
  | ok answer s => cases answer <;> rfl
  | error fault s => rfl

/-- What a command comes to: one that the gate does not let through leaves everything as it is. -/
theorem outcome_eval (sys : GameSystem) (command : String) (r : Roller σ) :
    Rolling.outcome (sys.eval command) r =
      if (sys.start? (Text.trim command)).isSome then
        withoutLog (carryOut (sys.plan (Text.trim command)) r)
      else .ok none r.unlogged := by
  unfold eval
  cases h : sys.start? (Text.trim command) with
  | none =>
    simp only [h]
    rw [if_neg (by simp)]
    rfl
  | some start =>
    simp only [h]
    exact sys.outcome_handle _ r

end GameSystem

end

end ChatDice
