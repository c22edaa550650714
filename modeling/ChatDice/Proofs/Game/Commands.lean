import ChatDice.Proofs.Game.NinjaSlayer

/-!
# ChatDice.Proofs.Game.Commands — evaluating what players write

The notation of the game has no blanks in it, so a command in it stands as it is when the blanks
around it are dropped, and it is let through the gate. What it comes to is therefore what its own
plan comes to (`CommandForm.outcome_text`), in secret if the flag stands in front of it
(`CommandForm.outcome_flagged_text`). Two commands with one plan come to the same.
-/

namespace ChatDice

/-! ## Texts without blanks -/

/-- No character of a text is a blank. -/
def NoBlanks (cs : List Char) : Prop := ∀ c ∈ cs, Text.isBlank c = false

instance (cs : List Char) : Decidable (NoBlanks cs) :=
  decidable_of_iff (cs.all (fun c => !Text.isBlank c) = true) (by simp [NoBlanks])

@[simp] theorem noBlanks_nil : NoBlanks [] := by
  simp [NoBlanks]

@[simp] theorem noBlanks_cons {c : Char} {cs : List Char} :
    NoBlanks (c :: cs) ↔ Text.isBlank c = false ∧ NoBlanks cs := by
  simp [NoBlanks]

@[simp] theorem noBlanks_append {cs ds : List Char} :
    NoBlanks (cs ++ ds) ↔ NoBlanks cs ∧ NoBlanks ds := by
  simp [NoBlanks, or_imp, forall_and]

/-- There is nothing to drop from a text without blanks. -/
theorem Text.trim_of_noBlanks {cs : List Char} (h : NoBlanks cs) :
    trim (String.ofList cs) = String.ofList cs := by
  have hdrop : ∀ ds : List Char, (∀ c ∈ ds, isBlank c = false) → ds.dropWhile isBlank = ds := by
    intro ds hds
    cases ds with
    | nil => rfl
    | cons c ds => rw [List.dropWhile_cons_of_neg (by simp [hds c (by simp)])]
  have hreverse : ∀ c ∈ cs.reverse, isBlank c = false := fun c hc => h c (List.mem_reverse.mp hc)
  rw [trim, trimWhere, String.toList_ofList, hdrop cs h, hdrop cs.reverse hreverse,
    List.reverse_reverse]

theorem isBlank_of_isDigit {c : Char} (hc : c.isDigit = true) : Text.isBlank c = false := by
  -- All blanks have code points below or above those of the digits.
  have hdigit := toNat_of_isDigit hc
  simp only [Text.isBlank, Text.isWhiteSpace, Bool.or_eq_false_iff, Bool.and_eq_false_iff,
    decide_eq_false_iff_not, beq_eq_false_iff_ne]
  omega

theorem IsNumeral.noBlanks {digits : List Char} (h : IsNumeral digits) : NoBlanks digits :=
  fun c hc => isBlank_of_isDigit (h.2 c hc)

/-! ## Notations without blanks -/

theorem BRollForm.noBlanks (f : BRollForm) : NoBlanks f.text := by
  have hmark : Text.isBlank 'B' = false ∧ Text.isBlank 'b' = false := by decide
  have hplus : Text.isBlank '+' = false := by decide
  have hsign : Text.isBlank '<' = false ∧ Text.isBlank '>' = false ∧
      Text.isBlank '=' = false ∧ Text.isBlank '!' = false := by decide
  exact f.forall_mem_text (fun c hc => isBlank_of_isDigit hc) hmark hplus hsign

theorem Difficulty.noBlanks_stated {suffix : List Char} {d : Difficulty} (h : Stated suffix d) :
    NoBlanks suffix := by
  have htokens : ∀ token ∈ d.spellings, NoBlanks token := by
    cases d <;> decide
  cases h with
  | absent => exact noBlanks_nil
  | @inBrackets token _ htoken =>
    have hopening : NoBlanks ('[' :: token) := noBlanks_cons.mpr ⟨by decide, htokens token htoken⟩
    exact noBlanks_append.mpr ⟨hopening, by decide⟩
  | @behindAt token _ htoken => exact noBlanks_cons.mpr ⟨by decide, htokens token htoken⟩

theorem CheckForm.noBlanks (f : CheckForm) : NoBlanks f.text := by
  have hletters : NoBlanks f.letters.text := by
    cases f.letters <;> decide
  have hending : NoBlanks (ending f.target) := by
    cases h : f.target with
    | none => exact noBlanks_nil
    | some digits => exact noBlanks_cons.mpr ⟨by decide, (f.target_isNumeral digits h).noBlanks⟩
  simp only [text, noBlanks_append]
  exact ⟨⟨⟨hletters, f.count_isNumeral.noBlanks⟩, Difficulty.noBlanks_stated f.suffix_stated⟩,
    hending⟩

theorem NormalCheckForm.noBlanks (f : NormalCheckForm) : NoBlanks f.text := by
  simp only [text, noBlanks_cons, noBlanks_append]
  have hletters : Text.isBlank 'N' = false ∧ Text.isBlank 'J' = false := by decide
  exact ⟨hletters.1, hletters.2, f.count_isNumeral.noBlanks,
    Difficulty.noBlanks_stated f.suffix_stated⟩

/-! ## Evaluating -/

namespace NinjaSlayer.CommandForm

theorem noBlanks (form : CommandForm) : NoBlanks form.text := by
  cases form with
  | normalCheck f => exact f.noBlanks
  | check f => exact f.noBlanks
  | table => decide
  | roll f => exact f.noBlanks

variable {σ : Type} [DieSource σ]

/-- A command in the notation of the game comes to what it asks for. -/
theorem outcome_text (form : CommandForm) (r : Roller σ) :
    Rolling.outcome (system.eval (String.ofList form.text)) r =
      withoutLog (GameSystem.carryOut (form.plan.map (·, false)) r) := by
  rw [GameSystem.outcome_eval, Text.trim_of_noBlanks form.noBlanks, if_pos form.start?_isSome.1,
    plan_text]

/-- Behind the flag it comes to the same in secret. -/
theorem outcome_flagged_text (form : CommandForm) (r : Roller σ) :
    Rolling.outcome (system.eval (String.ofList ('S' :: form.text))) r =
      withoutLog (GameSystem.carryOut (form.plan.map (·, true)) r) := by
  have hblanks : NoBlanks ('S' :: form.text) := noBlanks_cons.mpr ⟨by decide, form.noBlanks⟩
  rw [GameSystem.outcome_eval, Text.trim_of_noBlanks hblanks, if_pos form.start?_isSome.2,
    plan_flagged_text]

end NinjaSlayer.CommandForm

end ChatDice
