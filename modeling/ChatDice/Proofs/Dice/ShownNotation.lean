import Mathlib.Data.List.Forall2
import ChatDice.Proofs.Dice.Meaning

/-!
# ChatDice.Proofs.Dice.ShownNotation — the notation in an account is a command

An account starts with the roll between parentheses: capital letters, no zeros in front, and one
sign for each comparison. A comparison that came with the command is written out there as if it had
been stated. This notation is a command again, and evaluating it does what evaluating the first
command did (`eval_shownNotation`): the comparison that is now stated is the one that was put in its
place before.

The same holds of every other way to write the roll. Commands that respell each other have one plan
(`plan_of_respells`), so they come to the same, be it an answer, none, or a fault. Only the log
tells them apart, since it quotes commands with an empty group.
-/

namespace ChatDice

/-! ## Other spellings -/

/-- Two ways to write a group: they differ in the case of the letter and in leading zeros. -/
structure GroupForm.Respells (g h : GroupForm) : Prop where
  times : significantDigits g.times = significantDigits h.times
  sides : significantDigits g.sides = significantDigits h.sides

/-- Two ways to write a comparison: they differ in the spelling of the sign and in leading zeros. -/
structure ComparisonForm.Respells (c d : ComparisonForm) : Prop where
  op : c.op = d.op
  target : significantDigits c.target = significantDigits d.target

/-- Two ways to write a roll. -/
structure BRollForm.Respells (f g : BRollForm) : Prop where
  groups : List.Forall₂ GroupForm.Respells f.groups g.groups
  comparison : Option.Rel ComparisonForm.Respells f.comparison g.comparison

/-- Respelled groups are read alike, up to the text of an empty one. -/
theorem readGroups_of_respells {groups others : List GroupForm}
    (h : List.Forall₂ GroupForm.Respells groups others) :
    (readGroups (groups.map GroupForm.parts)).map Except.toOption =
      (readGroups (others.map GroupForm.parts)).map Except.toOption := by
  induction h with
  | nil => rfl
  | @cons g g' groups others hg _ ih =>
    have htimes : readNumber g.parts.times = readNumber g'.parts.times := readNumber_congr hg.times
    have hsides : readNumber g.parts.sides = readNumber g'.parts.sides := readNumber_congr hg.sides
    simp only [List.map_cons, readGroups_cons, htimes, hsides]
    cases readNumber g'.parts.times with
    | error fault => rfl
    | ok times =>
      cases readNumber g'.parts.sides with
      | error fault => rfl
      | ok sides =>
        by_cases hempty : times = 0 ∨ sides = 0
        · simp only [hempty, if_true]
          rfl
        · simp only [hempty, if_false]
          have hcons : ∀ read : Except Fault (Except GroupText (List DiceGroup)),
              (read.map fun rest => rest.map (⟨times, sides⟩ :: ·)).map Except.toOption =
                (read.map Except.toOption).map (Option.map (⟨times, sides⟩ :: ·)) := by
            rintro (_ | _ | _) <;> rfl
          rw [hcons, hcons, ih]

theorem readTarget_of_respells {c d : Option ComparisonForm}
    (h : Option.Rel ComparisonForm.Respells c d) :
    readTarget (c.map ComparisonForm.parts) = readTarget (d.map ComparisonForm.parts) := by
  cases h with
  | none => rfl
  | some h =>
    simp only [Option.map_some, ComparisonForm.parts, readTarget, h.op, readNumber_congr h.target]

namespace BRoll

/-- The plan of a command depends on the numbers that are read, and on nothing else. -/
theorem plan_text (f : BRollForm) (fallback : Option Fallback) :
    plan (String.ofList f.text) fallback =
      match (readGroups (f.groups.map GroupForm.parts)).map Except.toOption with
      | .error fault => .refuse fault
      | .ok none => .pass
      | .ok (some groups) =>
        match readTarget (f.comparison.map ComparisonForm.parts) with
        | .error fault => .refuse fault
        | .ok c => .throwing (dice ⟨groups, c⟩) (account ⟨groups, c⟩ fallback) := by
  rw [plan, String.toList_ofList, read_text]
  cases readGroups (f.groups.map GroupForm.parts) with
  | error fault => rfl
  | ok groups =>
    cases groups with
    | error g => rfl
    | ok groups => cases readTarget (f.comparison.map ComparisonForm.parts) <;> rfl

/-- Commands that respell each other ask for the same. -/
theorem plan_of_respells {f g : BRollForm} (h : f.Respells g) (fallback : Option Fallback) :
    plan (String.ofList f.text) fallback = plan (String.ofList g.text) fallback := by
  rw [plan_text, plan_text, readGroups_of_respells h.groups, readTarget_of_respells h.comparison]

/-! ## What is shown -/

end BRoll

/-- The notation that an account shows: what stands between its first parentheses. -/
def RollReport.shownNotation (report : RollReport) : String :=
  String.ofList ((report.text.toList.drop 1).takeWhile (· ≠ ')'))

namespace BRoll

theorem shownNotation_writtenReport {b : BRoll} (h : b.Legible) (rolled : List (List Nat)) :
    (b.writtenReport rolled).shownNotation = b.written := by
  obtain ⟨rest, -, htext⟩ := b.exists_text_report rolled
  have hinside : ∀ c ∈ b.written.toList, decide (c ≠ ')') = true := by
    intro c hc
    simp only [decide_eq_true_eq]
    rintro rfl
    exact not_mem_written h hc
  rw [RollReport.shownNotation, htext, toList_opening, List.cons_append, List.drop_one,
    List.tail_cons, List.append_assoc, List.takeWhile_append_of_pos hinside, List.cons_append,
    List.takeWhile_cons_of_neg (by simp), List.append_nil, String.ofList_toList]

section
variable {σ : Type} [DieSource σ]

/-- A command that is read as a roll throws it. -/
theorem eval_of_read {command : String} {b : BRoll} (h : read command.toList = .ok (.roll b))
    (fallback : Option Fallback) :
    (eval command fallback : Rolling σ (Option RollReport)) = some <$> b.throwDice fallback := by
  rw [eval, h]
  simp [Rolling.ofExcept]

/-- A result is the report of a roll that was read, with the fallback in its place. -/
theorem exists_of_run_eval {command : String} {fallback : Option Fallback} {r s : Roller σ}
    {report : RollReport} (h : (eval command fallback).run r = .ok (some report) s) :
    ∃ b judged rolled, read command.toList = .ok (.roll b) ∧ b.withFallback fallback = .ok judged ∧
      report = judged.writtenReport rolled := by
  have houtcome : withoutLog ((plan command fallback).result r) =
      .ok (some report) s.unlogged := by
    rw [← Plan.outcome_perform (plan_throwable _ _), ← (alike_eval command fallback).outcome_eq,
      Rolling.outcome, h]
    rfl
  obtain ⟨draws, hmakes⟩ : ∃ draws, (plan command fallback).Makes draws report := by
    cases hresult : (plan command fallback).result r with
    | error fault t => simp [hresult, withoutLog] at houtcome
    | ok answer t =>
      simp only [hresult, withoutLog, EStateM.Result.ok.injEq] at houtcome
      obtain ⟨rfl, -⟩ := houtcome
      exact Plan.exists_makes_of_result hresult
  obtain ⟨b, judged, hread, hjudged, -, -, rfl⟩ := exists_of_makes hmakes
  exact ⟨b, judged, _, hread, hjudged, rfl⟩

/-- With its fallback in place, a roll has no need of one. -/
theorem of_withFallback {b judged : BRoll} {fallback : Option Fallback}
    (h : b.withFallback fallback = .ok judged) :
    judged.groups = b.groups ∧ judged.withFallback fallback = .ok judged := by
  have hplain := h
  unfold withFallback at h
  split at h
  · rename_i f _
    cases hc : f.comparison with
    | error fault => simp [hc, bind, Except.bind] at h
    | ok c =>
      simp only [hc, bind, Except.bind, pure, Except.pure, Except.ok.injEq] at h
      subst h
      exact ⟨rfl, rfl⟩
  · obtain rfl := Except.ok.inj h
    exact ⟨rfl, hplain⟩

/-- A comparison that is put in its place may as well have been stated. -/
theorem throwDice_withFallback {b judged : BRoll} {fallback : Option Fallback}
    (h : b.withFallback fallback = .ok judged) :
    (judged.throwDice fallback : Rolling σ RollReport) = b.throwDice fallback := by
  obtain ⟨hgroups, hjudged⟩ := of_withFallback h
  rw [throwDice, throwDice, hgroups, hjudged, h]

/-- The notation in an account is a command with the same result as the command before it, from the
same roller and with the same comparison for rolls without one, as long as the target of the
comparison that is shown is a number that commands may state; a target that was stated is one.
Commands that respell each other come to the same in any case. -/
theorem eval_shownNotation (sign : Option String) (target : Option Int) (r : Roller σ) :
    (∀ (command : String) (report : RollReport) (s : Roller σ),
      (eval command (Fallback.ofParts? sign target)).run r = .ok (some report) s →
      (∀ f : BRollForm, f.text = command.toList →
        ∀ c, f.JudgedBy sign target (some c) → c.Legible) →
      (eval report.shownNotation (Fallback.ofParts? sign target)).run r = .ok (some report) s) ∧
    (∀ (f : BRollForm) (report : RollReport) (s : Roller σ),
      (eval (String.ofList f.text) (Fallback.ofParts? sign target)).run r = .ok (some report) s →
      ∀ c ∈ f.comparison, c.comparison.Legible) ∧
    ∀ f g : BRollForm, f.Respells g →
      Rolling.outcome (eval (String.ofList f.text) (Fallback.ofParts? sign target)) r =
        Rolling.outcome (eval (String.ofList g.text) (Fallback.ofParts? sign target)) r := by
  refine ⟨?_, ?_, ?_⟩
  · intro command report s hrun hshort
    obtain ⟨b, judged, rolled, hread, hwith, rfl⟩ := exists_of_run_eval hrun
    obtain ⟨f, hf, -, rfl⟩ := exists_form_of_read hread
    obtain ⟨hjudged, hgroups⟩ := withFallback_roll_eq_ok_iff.mp hwith
    have hroll : f.roll.Legible := legible_of_read hread
    have hlegible : judged.Legible := by
      refine ⟨hgroups ▸ hroll.groups_ne_nil, hgroups ▸ hroll.groups, ?_⟩
      intro c hc
      rw [Option.mem_def] at hc
      exact hshort f hf c (hc ▸ hjudged)
    have hshown : read (judged.writtenReport rolled).shownNotation.toList = .ok (.roll judged) := by
      rw [shownNotation_writtenReport hlegible, read_written hlegible]
    rw [eval_of_read hshown, throwDice_withFallback hwith, ← eval_of_read hread, hrun]
  · intro f report s hrun c hc
    obtain ⟨b, -, -, hread, -, -⟩ := exists_of_run_eval hrun
    rw [String.toList_ofList] at hread
    obtain ⟨-, rfl⟩ := read_text_eq_roll_iff.mp hread
    apply (legible_of_read hread).comparison
    rw [Option.mem_def] at hc ⊢
    rw [BRollForm.roll, hc, Option.map_some]
  · intro f g h
    rw [(alike_eval _ _).outcome_eq, (alike_eval _ _).outcome_eq, plan_of_respells h]

/-- A roll that is judged by the comparison that came with it, whose sign has a second spelling; and
a roll in two spellings. -/
theorem eval_shownNotation_of_fallback :
    let r : Roller Replay := { source := { faces := #[6, 2, 9] }, limit := 5, record := #[⟨3, 6⟩] }
    let fallback : Option Fallback := some ⟨"=>", 5⟩
    (∃ report s, (eval "02b6+1B010" fallback).run r = .ok (some report) s ∧
      report.shownNotation = "2B6+1B10>=5" ∧
      (eval report.shownNotation fallback).run r = .ok (some report) s) ∧
    Rolling.outcome (eval "03b6!=01" fallback) r = Rolling.outcome (eval "3B06<>1" fallback) r := by
  intro r fallback
  have hmain := eval_shownNotation (some "=>") (some 5) r
  constructor
  · let b : BRoll := ⟨[⟨2, 6⟩, ⟨1, 10⟩], none⟩
    have hread : read "02b6+1B010".toList = .ok (.roll b) := by decide +kernel
    have hwith : b.withFallback fallback = .ok ⟨b.groups, some ⟨.ge, 5⟩⟩ := by decide
    have hwritable : Writable ⟨b.groups, some ⟨.ge, 5⟩⟩ := by
      rintro c ⟨⟩
      exact writable_of_lt (n := 5) (by decide)
    obtain ⟨s, hrun, -⟩ := exists_run_eval hread hwith hwritable (r := r) (by decide)
    refine ⟨_, s, hrun, by decide +kernel, hmain.1 _ _ s hrun ?_⟩
    intro f hf c hjudged
    have hparts : BRollText.read? "02b6+1B010".toList =
        some ⟨[⟨['0', '2'], ['6']⟩, ⟨['1'], ['0', '1', '0']⟩], none⟩ := by decide +kernel
    rw [← hf, BRollForm.read?_text, Option.some.injEq] at hparts
    have hnone : f.comparison.map ComparisonForm.parts = none := congrArg (·.comparison) hparts
    cases hjudged with
    | stated hc => simp [hc] at hnone
    | fallback _ _ htarget _ =>
      obtain rfl := Option.some.inj htarget
      exact ⟨show (0 : Int) ≤ 5 by decide, show 5 < 10 ^ maxDigits by decide⟩
  · let f : BRollForm :=
      { groups := [⟨['0', '3'], 'b', ['6'], by decide, by decide, by decide⟩]
        comparison := some ⟨.ne, ['!', '='], ['0', '1'], by decide, by decide⟩
        groups_ne_nil := by decide }
    let g : BRollForm :=
      { groups := [⟨['3'], 'B', ['0', '6'], by decide, by decide, by decide⟩]
        comparison := some ⟨.ne, ['<', '>'], ['1'], by decide, by decide⟩
        groups_ne_nil := by decide }
    have hrespells : f.Respells g := ⟨.cons ⟨rfl, rfl⟩ .nil, .some ⟨rfl, rfl⟩⟩
    exact hmain.2.2 f g hrespells

end

end BRoll

end ChatDice
