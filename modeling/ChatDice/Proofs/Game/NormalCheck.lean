import ChatDice.Proofs.Game.Commands
import ChatDice.Random.Replay

/-!
# ChatDice.Proofs.Game.NormalCheck — normal checks are B rolls

A normal check is written out as a B roll before it is evaluated. A player may as well write the B
roll, and then the number of dice is read by another part of the program: not when the check is
written out, but when the roll is read. Both ways ask for the same (`plan_successRoll`), so they
come to the same from every roller.

Writing out does nothing to any other command, hence nothing when it is done again.
-/

namespace ChatDice.NinjaSlayer

/-- The B roll of a normal check, with the digits of the check. -/
def successRoll (f : NormalCheckForm) : CommandForm :=
  .roll (SuccessRoll.form f.count f.count_isNumeral f.difficulty.threshold)

/-- The B roll asks for what the check asks for: a number that is too large is refused by both, a
roll of no dice has no answer, and zeros in front of the number do not count. -/
theorem plan_successRoll (f : NormalCheckForm) :
    (successRoll f).plan = (CommandForm.normalCheck f).plan := by
  have hthreshold := f.difficulty.threshold_lt
  show (BRoll.plan (String.ofList
    (SuccessRoll.form f.count f.count_isNumeral f.difficulty.threshold).text)
    system.fallback?).map RollReport.text = _
  rw [SuccessRoll.text_form, SuccessRoll.plan_text f.count_isNumeral hthreshold, CommandForm.plan]
  cases readNumber f.count with
  | ok n => rfl
  | error fault => rfl

/-- What a normal check is written out as is no normal check. -/
theorem expand_successRoll (secret : Bool) (n : Nat) (d : Difficulty) :
    system.expand ((if secret then "S" else "") ++ SuccessRoll.command n d.threshold) =
      .ok ((if secret then "S" else "") ++ SuccessRoll.command n d.threshold) := by
  obtain ⟨c, rest, htext, hc⟩ := SuccessRoll.exists_digit_command n d.threshold
  have hN : c ≠ 'N' := ne_of_isDigit hc (by decide)
  have hS : c ≠ 'S' := ne_of_isDigit hc (by decide)
  apply expandNormalCheck_of_no_form
  intro flag f hf
  rw [String.toList_append, htext] at hf
  -- With the flag or without, the two texts differ where the check has its first letter.
  cases secret <;> cases flag <;> simp [NormalCheckForm.flagged, NormalCheckForm.text] at hf
  · exact hN hf.1.symm
  · exact hS hf.1.symm
  · exact hN hf.1.symm

/-- Writing out is done once. -/
theorem expand_expand {command expanded : String} (h : system.expand command = .ok expanded) :
    system.expand expanded = .ok expanded := by
  by_cases hform : ∃ secret, ∃ f : NormalCheckForm, f.flagged secret = command.toList
  · obtain ⟨secret, f, hf⟩ := hform
    have htext := expandNormalCheck_text secret f
    rw [hf, String.ofList_toList] at htext
    have hexpand : expandNormalCheck command = .ok expanded := h
    rw [hexpand] at htext
    cases hcount : readNumber f.count with
    | error fault =>
      rw [hcount] at htext
      cases htext
    | ok n =>
      rw [hcount] at htext
      simp only [Except.map, Except.ok.injEq] at htext
      rw [htext]
      exact expand_successRoll secret n f.difficulty
  · have hsame : system.expand command = .ok command := by
      apply expandNormalCheck_of_no_form
      intro secret f hf
      exact hform ⟨secret, f, hf⟩
    rw [hsame, Except.ok.injEq] at h
    rw [← h, hsame]

variable {σ : Type} [DieSource σ]

/-- A normal check and the B roll of its number and its threshold come to the same from every
roller: answer, draws, fault, record and source. So they do behind the flag. Writing out leaves
every text that is no normal check as it is, and whatever it gives is left as it is too. -/
theorem normalCheck_as_successRoll (r : Roller σ) {digits suffix : List Char} {d : Difficulty}
    (hdigits : IsNumeral digits) (hsuffix : Difficulty.Stated suffix d) :
    let check := "NJ".toList ++ digits ++ suffix
    let roll := digits ++ "B6>=".toList ++ (toString d.threshold).toList
    Rolling.outcome (system.eval (String.ofList check)) r =
        Rolling.outcome (system.eval (String.ofList roll)) r ∧
      Rolling.outcome (system.eval (String.ofList ('S' :: check))) r =
        Rolling.outcome (system.eval (String.ofList ('S' :: roll))) r ∧
      (∀ command : String,
        (∀ flag count stated difficulty, flag = [] ∨ flag = ['S'] → IsNumeral count →
          Difficulty.Stated stated difficulty →
          command.toList ≠ flag ++ "NJ".toList ++ count ++ stated) →
        system.expand command = .ok command) ∧
      ∀ command expanded : String,
        system.expand command = .ok expanded → system.expand expanded = .ok expanded := by
  intro check roll
  let f : NormalCheckForm := ⟨digits, suffix, d, hdigits, hsuffix⟩
  have hcheck : check = (CommandForm.normalCheck f).text := rfl
  have hroll : roll = (successRoll f).text := by
    show roll = (SuccessRoll.form digits hdigits d.threshold).text
    rw [SuccessRoll.text_form]
    simp [roll, SuccessRoll.text]
  refine ⟨?_, ?_, ?_, fun command expanded => expand_expand⟩
  · rw [hcheck, hroll, CommandForm.outcome_text, CommandForm.outcome_text, plan_successRoll]
  · rw [hcheck, hroll, CommandForm.outcome_flagged_text, CommandForm.outcome_flagged_text,
      plan_successRoll]
  · intro command hcommand
    apply expandNormalCheck_of_no_form
    intro secret g hg
    cases secret with
    | false =>
      exact hcommand [] _ _ _ (.inl rfl) g.count_isNumeral g.suffix_stated hg.symm
    | true =>
      exact hcommand ['S'] _ _ _ (.inr rfl) g.count_isNumeral g.suffix_stated hg.symm

/-- With zeros in front of the number and in secret. -/
theorem normalCheck_as_successRoll_secret :
    let r : Roller Replay := { source := { faces := #[5, 2] }, limit := 10 }
    Rolling.outcome (system.eval "SNJ003[uH]") r =
      Rolling.outcome (system.eval "S003B6>=6") r := by
  intro r
  have hdigits : IsNumeral ['0', '0', '3'] := by decide
  have hsuffix : Difficulty.Stated ['[', 'u', 'H', ']'] .ultraHard :=
    .inBrackets (show ['u', 'H'] ∈ Difficulty.ultraHard.spellings by decide)
  exact (normalCheck_as_successRoll r hdigits hsuffix).2.1

end ChatDice.NinjaSlayer
