import ChatDice.Proofs.Game.Answers
import ChatDice.Proofs.Game.Commands

/-!
# ChatDice.Proofs.Game.Gate — nothing is lost at the gate

The gate looks at the start of a text only, and not at all of it as the readers behind it do. It may
let through what is no command, but it must not stop what is one. `passes_of_answerOf_ne` says that
it does not: whatever has an answer or ends in a fault when it is evaluated without the gate is let
through. So the gate can be left out of account, and what shows of any text is what its plan shows
(`shown_eval_eq_plan`).
-/

namespace ChatDice

namespace GameSystem

variable {σ : Type} [DieSource σ]

/-- Behind the gate the evaluation goes on without it. -/
theorem eval_of_passes {sys : GameSystem} {command : String} (h : sys.passes command = true) :
    (sys.eval command : Rolling σ (Option CommandResult)) = sys.handle (Text.trim command) := by
  obtain ⟨start, hstart⟩ := Option.isSome_iff_exists.mp h
  unfold eval
  simp only [hstart]

/-- The record behind the gate holds the draws of the command, as many as the limit allows. -/
theorem record_handle (sys : GameSystem) (command : String) (r : Roller σ) :
    (rollerLeft ((sys.handle command).run r)).record.toList =
      DieSource.draws ((sys.plan command).dice.take r.limit) r.source := by
  have h := congrArg rollerLeft (sys.outcome_handle command r)
  rw [Rolling.outcome, rollerLeft_withoutLog, rollerLeft_withoutLog, rollerLeft_carryOut,
    Roller.unlogged_eq_iff] at h
  rw [h.2.2]
  simp

end GameSystem

namespace NinjaSlayer

/-! ## Commands with the flag or without -/

namespace CommandForm

/-- The characters of a command, with the flag if it is there. -/
def flagged (secret : Bool) (form : CommandForm) : List Char :=
  if secret then 'S' :: form.text else form.text

theorem plan_flagged (secret : Bool) (form : CommandForm) :
    system.plan (String.ofList (form.flagged secret)) = form.plan.map (·, secret) := by
  cases secret with
  | false => exact form.plan_text
  | true => exact form.plan_flagged_text

theorem start?_flagged (secret : Bool) (form : CommandForm) :
    (system.start? (String.ofList (form.flagged secret))).isSome = true := by
  cases secret with
  | false => exact form.start?_isSome.1
  | true => exact form.start?_isSome.2

end CommandForm

/-- Every text is a command of the game, with the flag or without, or it asks for nothing. -/
theorem exists_form_or_pass (command : String) :
    (∃ secret, ∃ form : CommandForm, command = String.ofList (form.flagged secret)) ∨
      system.plan command = .pass := by
  by_cases hform : ∃ secret, ∃ form : CommandForm, command = String.ofList (form.flagged secret)
  · exact .inl hform
  · right
    apply CommandForm.plan_of_no_form
    intro form
    constructor
    · intro htext
      exact hform ⟨false, form, by rw [← String.ofList_toList (s := command), htext]; rfl⟩
    · intro htext
      exact hform ⟨true, form, by rw [← String.ofList_toList (s := command), htext]; rfl⟩

/-! ## The gate -/

/-- What the gate stops asks for nothing. -/
theorem plan_of_not_passes {command : String} (h : system.passes command = false) :
    system.plan (Text.trim command) = .pass := by
  rcases exists_form_or_pass (Text.trim command) with ⟨secret, form, hform⟩ | hpass
  · rw [GameSystem.passes, hform, form.start?_flagged secret] at h
    cases h
  · exact hpass

section
variable {σ : Type} [DieSource σ]

/-- What shows of a text is what its plan shows, whether the gate lets it through or not. -/
theorem shown_eval_eq_plan (command : String) (r : Roller σ) :
    shown ((system.eval command).run r) =
      (system.plan (Text.trim command)).shown r.limit r.source := by
  rw [GameSystem.shown_eval]
  cases h : system.passes command with
  | true => rw [if_pos rfl]
  | false => rw [if_neg (by decide), plan_of_not_passes h, Plan.shown_pass]

/-- What is not passed over without the gate is let through by it. -/
theorem passes_of_answerOf_ne {command : String} {r : Roller σ}
    (h : answerOf ((system.handle (Text.trim command)).run r) ≠ .ok none) :
    system.passes command = true := by
  cases hgate : system.passes command with
  | true => rfl
  | false =>
    have hshown := congrArg Prod.fst (system.shown_handle (Text.trim command) r)
    rw [plan_of_not_passes hgate, Plan.shown_pass, fst_shown] at hshown
    exact absurd hshown h

/-- The gate drops no command that the game could handle. A text that has an answer or ends in a
fault when it is evaluated without the gate is let through; so with the gate and without it, every
text has the same answer or fault and leaves the source at the same place. Without the gate the
record starts empty and holds the draws of the text; with the gate these are the draws on record if
the text is let through, and there are none if it is not. -/
theorem gate_keeps_commands (r : Roller σ) (command : String) :
    (answerOf ((system.handle (Text.trim command)).run r) ≠ .ok none →
        (system.start? (Text.trim command)).isSome = true) ∧
      shown ((system.eval command).run r) = shown ((system.handle (Text.trim command)).run r) ∧
      (rollerLeft ((system.handle (Text.trim command)).run r)).record.toList =
        if (system.start? (Text.trim command)).isSome then
          (rollerLeft ((system.eval command).run r)).record.toList
        else [] := by
  refine ⟨passes_of_answerOf_ne, ?_, ?_⟩
  · rw [shown_eval_eq_plan, GameSystem.shown_handle]
  · show _ = if system.passes command then _ else _
    cases h : system.passes command with
    | true => rw [if_pos rfl, GameSystem.eval_of_passes h]
    | false =>
      have hnone : (Plan.pass : Plan (String × Bool)).dice = [] := rfl
      rw [if_neg (by decide), GameSystem.record_handle, plan_of_not_passes h, hnone, List.take_nil,
        DieSource.draws_nil]

end

/-- A secret roll with a small letter, behind blanks. -/
theorem gate_keeps_commands_small_letter :
    let r : Roller Replay := { source := { faces := #[4, 2] }, limit := 3 }
    answerOf ((system.handle (Text.trim " S2b6 ")).run r) ≠ .ok none ∧
      (system.start? (Text.trim " S2b6 ")).isSome = true := by
  intro r
  have hhandle : answerOf ((system.handle (Text.trim " S2b6 ")).run r) ≠ .ok none := by
    decide +kernel
  exact ⟨hhandle, (gate_keeps_commands r " S2b6 ").1 hhandle⟩

end NinjaSlayer

end ChatDice
