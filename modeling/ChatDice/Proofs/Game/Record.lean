import ChatDice.Game.NinjaSlayer
import ChatDice.Proofs.Game.Answers

/-!
# ChatDice.Proofs.Game.Record — whose draws are on record

The record is there to tell what was drawn for a command. It is emptied behind the gate, so a
command that the gate passes over finds the record of an earlier one and leaves it as it is,
although it has drawn nothing itself.

`GameSystem.record_of_last_passed` says whose draws are on record after any session: those of the
last command that the gate let through. They are the draws of the command just evaluated exactly if
that is this command, or if there was nothing on record before it. The same condition decides
whether the record is empty after a command without an answer. A greeting behind a roll does not
meet it (`NinjaSlayer.record_behind_greeting`).
-/

namespace ChatDice

section
variable {σ : Type} [DieSource σ]

/-- A plan that shows no answer asks for nothing. -/
theorem Plan.eq_pass_of_shown {p : Plan (String × Bool)} {limit : Nat} {s : σ}
    (h : (p.shown limit s).1 = .ok none) : p = .pass := by
  cases p with
  | pass => rfl
  | refuse fault => cases h
  | throwing dice account =>
    rcases Nat.lt_or_ge limit dice.length with hroom | hroom
    · rw [shown_of_lt hroom] at h
      cases h
    · rw [shown_of_le hroom] at h
      cases hfaces : account (DieSource.faces dice s) with
      | error fault =>
        rw [hfaces] at h
        cases h
      | ok found =>
        rw [hfaces] at h
        cases h

namespace GameSystem

/-! ## One command -/

/-- The draws that a command takes from the source, in their order: what a tape beside the source
holds behind it. -/
def drawsMade (sys : GameSystem) (r : Roller σ) (command : String) : List Draw :=
  (sys.step r.taped command).source.taken

/-- The gate decides whether the draws of a command are what it leaves on record, or none. -/
theorem drawsMade_eq (sys : GameSystem) (r : Roller σ) (command : String) :
    sys.drawsMade r command =
      if sys.passes command then (sys.step r command).record.toList else [] := by
  have hsource : r.taped.source = ⟨r.source, []⟩ := rfl
  rw [drawsMade, sys.step_taped hsource rfl command, List.nil_append]

/-- The record tells of the command before it, unless the gate lets the command through. -/
theorem record_step_eq_drawsMade_iff (sys : GameSystem) (r : Roller σ) (command : String) :
    (sys.step r command).record.toList = sys.drawsMade r command ↔
      sys.passes command = true ∨ r.record = #[] := by
  rw [drawsMade_eq]
  cases h : sys.passes command with
  | true => simp
  | false =>
    obtain ⟨-, -, hrecord⟩ := step_of_not_passes h r
    simp [hrecord]

/-- A command without an answer has drawn nothing, on whichever side of the gate. -/
theorem drawsMade_of_unanswered {sys : GameSystem} {r : Roller σ} {command : String}
    (h : answerOf ((sys.eval command).run r) = .ok none) : sys.drawsMade r command = [] := by
  rw [drawsMade_eq]
  cases hgate : sys.passes command with
  | false => rfl
  | true =>
    rw [← fst_shown, shown_eval, if_pos hgate] at h
    have hplan := Plan.eq_pass_of_shown h
    obtain ⟨-, -, hrecord⟩ := step_of_passes hgate r
    rw [if_pos rfl, hrecord, hplan]
    simp [Plan.dice]

/-! ## A session -/

/-- On record are the draws of the last command that the gate let through, if there was one. -/
theorem record_session (sys : GameSystem) (start : Roller σ) (history : List String) :
    (sys.session start history).record.toList =
      (sys.records start history).getLast?.getD start.record.toList := by
  induction history generalizing start with
  | nil => rfl
  | cons command history ih =>
    rw [session_cons, ih, records]
    cases h : sys.passes command with
    | true => rw [if_pos rfl, List.getLast?_cons, Option.getD_some]
    | false =>
      obtain ⟨-, -, hrecord⟩ := step_of_not_passes h start
      rw [if_neg (by decide), hrecord]

/-- The record belongs to the last command that the gate let through. So after any session it holds
the draws of the command just evaluated, and no others, exactly if the gate lets this command
through or there was nothing on record before it. A command without an answer draws nothing, and the
record is empty after it on the same condition. -/
theorem record_of_last_passed (sys : GameSystem) (start : Roller σ) (history : List String)
    (command : String) :
    let r := sys.session start history
    (sys.step r command).record.toList =
        (sys.records start (history ++ [command])).getLast?.getD start.record.toList ∧
      ((sys.step r command).record.toList = sys.drawsMade r command ↔
        sys.passes command = true ∨ r.record = #[]) ∧
      (answerOf ((sys.eval command).run r) = .ok none →
        sys.drawsMade r command = [] ∧
          ((sys.step r command).record = #[] ↔ sys.passes command = true ∨ r.record = #[])) := by
  intro r
  refine ⟨?_, sys.record_step_eq_drawsMade_iff r command, ?_⟩
  · rw [← session_concat, record_session]
  · intro hnone
    have hmade := drawsMade_of_unanswered hnone
    refine ⟨hmade, ?_⟩
    rw [← record_step_eq_drawsMade_iff, hmade, Array.toList_eq_nil_iff]

/-- A roll, a greeting that leaves its draw on record, and a roll of no dice: the gate lets this one
through, so nothing is on record behind it. -/
theorem record_of_last_passed_no_dice :
    let sys := ofWords "Luck" ["LUCK"] (some ">=") (some 4) [("LUCK", 20)]
    let start : Roller Replay := { source := { faces := #[4, 2] }, limit := 3 }
    let r := sys.session start ["LUCK", "hello"]
    r.record = #[⟨4, 20⟩] ∧ answerOf ((sys.eval "0B6").run r) = .ok none ∧
      (sys.step r "0B6").record = #[] := by
  intro sys start r
  have hnone : answerOf ((sys.eval "0B6").run r) = .ok none := by decide +kernel
  have hgate : sys.passes "0B6" = true := by decide +kernel
  obtain ⟨-, -, hunanswered⟩ := sys.record_of_last_passed start ["LUCK", "hello"] "0B6"
  exact ⟨by decide +kernel, hnone, (hunanswered hnone).2.mpr (.inl hgate)⟩

end GameSystem

end

namespace NinjaSlayer

/-- A normal check of one die and a greeting: the greeting has no answer and draws nothing, and the
draw of the check is still on record behind it. -/
theorem record_behind_greeting :
    let start : Roller Replay := { source := { faces := #[4] }, limit := 10000 }
    let r := system.session start ["NJ1"]
    answerOf ((system.eval "hello").run r) = .ok none ∧ system.drawsMade r "hello" = [] ∧
      (system.step r "hello").record = #[⟨4, 6⟩] := by
  decide +kernel

end NinjaSlayer

end ChatDice
