import ChatDice.Game.NinjaSlayer
import ChatDice.Proofs.Dice.SuccessRoll
import ChatDice.Proofs.Game.Notation
import ChatDice.Proofs.Game.Plan
import ChatDice.Proofs.Game.Routing

/-!
# ChatDice.Proofs.Game.NinjaSlayer — what the commands of the game ask for

A command of the game is a normal check, a check, the table's command or a B roll, and each of them
may stand behind the flag of a secret roll. `CommandForm` is this notation, and `CommandForm.plan`
what a command in it asks for.

The two main statements are that the evaluation follows the notation and nothing else: `plan_text`
and `plan_flagged_text` for the commands that have a form, `plan_of_no_form` for all others. The
four notations do not get in each other's way, because their first characters differ.
-/

namespace ChatDice.NinjaSlayer

/-- A command of the game as a player writes it, without the flag of a secret roll. -/
inductive CommandForm where
  | normalCheck (f : NormalCheckForm)
  | check (f : CheckForm)
  | table
  | roll (f : BRollForm)

namespace CommandForm

/-- The characters of the command. -/
def text : CommandForm → List Char
  | normalCheck f => f.text
  | check f => f.text
  | table => ['S', 'B']
  | roll f => f.text

/-- What the command asks for. -/
def plan : CommandForm → Plan String
  | normalCheck f =>
    match readNumber f.count with
    | .ok n => (SuccessRoll.plan n f.difficulty.threshold).map RollReport.text
    | .error fault => .refuse fault
  | check f =>
    match f.reading with
    | .ok (.check c) => c.plan
    | .ok _ => .pass
    | .error fault => .refuse fault
  | table => satsubatsuTable.plan
  | roll f => (BRoll.plan (String.ofList f.text) system.fallback?).map RollReport.text

end CommandForm

/-! ## Commands as they stand -/

/-- What a text is read as, if it is not the table's command. -/
theorem command_special_of_ne_table {cs : List Char} (h : cs ≠ ['S', 'B']) :
    (special (String.ofList cs)).command =
      (Check.read cs).map fun reading =>
        match reading with
        | .check c => some (.check c)
        | _ => none := by
  have htable : tables.lookup (String.ofList cs) = none := by
    have hne : ¬ String.ofList cs = "SB" := by
      intro heq
      apply h
      rw [← String.toList_ofList (l := cs), heq]
      rfl
    have hbeq : (String.ofList cs == "SB") = false := beq_eq_false_iff_ne.mpr hne
    rw [tables, List.lookup_cons, hbeq]
    rfl
  unfold special
  rw [htable, String.toList_ofList]
  cases Check.read cs with
  | error fault => rfl
  | ok reading => cases reading <;> rfl

theorem specialPlan_of_ne_table {cs : List Char} (h : cs ≠ ['S', 'B']) :
    system.specialPlan (String.ofList cs) =
      match Check.read cs with
      | .ok (.check c) => c.plan
      | .ok _ => .pass
      | .error fault => .refuse fault := by
  have hspecial : (system.special (String.ofList cs)).command = _ := command_special_of_ne_table h
  rw [GameSystem.specialPlan, hspecial]
  cases Check.read cs with
  | error fault => rfl
  | ok reading => cases reading <;> rfl

/-- A text that is neither the table's command nor a check nor a roll asks for nothing as it
stands. -/
theorem answerPlan_of_no_form {cs : List Char} (htable : cs ≠ ['S', 'B'])
    (hcheck : ∀ f : CheckForm, f.text ≠ cs) (hroll : ∀ f : BRollForm, f.text ≠ cs) :
    system.answerPlan (String.ofList cs) = .pass := by
  have hcommon : system.commonPlan (String.ofList cs) = .pass := by
    rw [GameSystem.commonPlan, BRoll.plan_of_no_form (by simpa using hroll)]
    rfl
  rw [GameSystem.answerPlan, specialPlan_of_ne_table htable, Check.read_of_no_form hcheck, hcommon]
  rfl

theorem answerPlan_check (f : CheckForm) :
    system.answerPlan (String.ofList f.text) = (CommandForm.check f).plan := by
  obtain ⟨c, rest, htext, hc⟩ := f.exists_letter
  have htable : f.text ≠ ['S', 'B'] := by
    rw [htext]
    rintro h
    rcases hc with rfl | rfl <;> simp at h
  have hcommon : system.commonPlan (String.ofList f.text) = .pass := by
    rw [GameSystem.commonPlan, BRoll.plan_of_no_form]
    · rfl
    · -- A roll starts with a digit, a check with a letter.
      intro r hr
      obtain ⟨d, tail, hroll, hd⟩ := r.exists_digit
      rw [String.toList_ofList, htext, hroll, List.cons.injEq] at hr
      rcases hc with rfl | rfl
      · exact ne_of_isDigit hd (by decide) hr.1
      · exact ne_of_isDigit hd (by decide) hr.1
  rw [GameSystem.answerPlan, specialPlan_of_ne_table htable, Check.read_text, hcommon,
    CommandForm.plan]
  cases f.reading with
  | error fault => rfl
  | ok reading =>
    cases reading with
    | unrecognized => rfl
    | noDice => rfl
    | check c =>
      simp only
      cases c.plan <;> rfl

theorem answerPlan_roll (f : BRollForm) :
    system.answerPlan (String.ofList f.text) = (CommandForm.roll f).plan := by
  obtain ⟨c, rest, htext, hc⟩ := f.exists_digit
  have htable : f.text ≠ ['S', 'B'] := by
    rw [htext]
    rintro h
    simp only [List.cons.injEq] at h
    simp [h.1] at hc
  -- A check starts with a letter, a roll with a digit.
  have hcheck : ∀ g : CheckForm, g.text ≠ f.text := by
    intro g hg
    obtain ⟨d, tail, hletter, hd⟩ := g.exists_letter
    rw [hletter, htext, List.cons.injEq] at hg
    rcases hd with rfl | rfl <;> simp [← hg.1] at hc
  rw [GameSystem.answerPlan, specialPlan_of_ne_table htable, Check.read_of_no_form hcheck]
  rfl

theorem answerPlan_table : system.answerPlan "SB" = CommandForm.table.plan := by
  rfl

/-- A text whose first character starts no check, no roll and not the table's command. -/
theorem answerPlan_of_head {c : Char} {rest : List Char} (htable : c :: rest ≠ ['S', 'B'])
    (hcheck : c ≠ 'E' ∧ c ≠ 'A') (hroll : c.isDigit = false) :
    system.answerPlan (String.ofList (c :: rest)) = .pass := by
  apply answerPlan_of_no_form htable
  · intro f hf
    obtain ⟨d, tail, htext, hd⟩ := f.exists_letter
    rw [htext, List.cons.injEq] at hf
    rcases hd with rfl | rfl
    · exact hcheck.1 hf.1.symm
    · exact hcheck.2 hf.1.symm
  · intro f hf
    obtain ⟨d, tail, htext, hd⟩ := f.exists_digit
    rw [htext, List.cons.injEq] at hf
    rw [hf.1, hroll] at hd
    simp at hd

/-- A success roll as it stands, and behind a flag. -/
theorem answerPlan_successRoll {n : Nat} (hn : n < 10 ^ maxDigits) (d : Difficulty) :
    system.answerPlan (SuccessRoll.command n d.threshold) =
      (SuccessRoll.plan n d.threshold).map RollReport.text := by
  have hthreshold := d.threshold_lt
  have hform := SuccessRoll.text_form _ (isNumeral_toString n) d.threshold
  have hcommand : String.ofList (SuccessRoll.form _ (isNumeral_toString n) d.threshold).text =
      SuccessRoll.command n d.threshold := by
    rw [hform, ← SuccessRoll.toList_command, String.ofList_toList]
  have h := answerPlan_roll (SuccessRoll.form _ (isNumeral_toString n) d.threshold)
  rw [CommandForm.plan, hcommand, SuccessRoll.plan_command hn hthreshold] at h
  exact h

/-! ## Commands with and without the flag -/

/-- Only what starts with `N`, or with the flag and `N`, is written out before it is evaluated. -/
theorem expand_of_head {cs : List Char} (hplain : cs.head? ≠ some 'N')
    (hflag : ∀ rest, cs = 'S' :: rest → rest.head? ≠ some 'N') :
    system.expand (String.ofList cs) = .ok (String.ofList cs) := by
  apply expandNormalCheck_of_no_form
  intro secret f hf
  rw [String.toList_ofList] at hf
  cases secret with
  | false => exact hplain (by rw [← hf]; rfl)
  | true => exact hflag _ hf.symm rfl

theorem plan_of_expand {command expanded : String} (h : system.expand command = .ok expanded) :
    system.plan command =
      ((system.answerPlan expanded).map (·, false)).orElse
        ((system.secretPlan expanded).map (·, true)) := by
  rw [GameSystem.plan, h]

theorem secretPlan_of_head {c : Char} {rest : List Char} (hc : c ≠ 'S') :
    system.secretPlan (String.ofList (c :: rest)) = .pass := by
  apply GameSystem.secretPlan_of_no_flag
  intro unflagged h
  rw [String.toList_ofList, List.cons.injEq] at h
  exact hc h.1

theorem secretPlan_flagged (cs : List Char) :
    system.secretPlan (String.ofList ('S' :: cs)) = system.answerPlan (String.ofList cs) :=
  GameSystem.secretPlan_of_flag (String.toList_ofList)

namespace CommandForm

/-- A command that is no normal check starts neither with `N` nor, if it is not the table's command,
with the flag. -/
theorem exists_head {form : CommandForm} (hform : ∀ f, form ≠ normalCheck f) :
    ∃ c rest, form.text = c :: rest ∧ c ≠ 'N' ∧ c ≠ 'B' ∧ (c ≠ 'S' ∨ form = table) := by
  cases form with
  | normalCheck f => exact absurd rfl (hform f)
  | check f =>
    obtain ⟨c, rest, htext, hc⟩ := f.exists_letter
    refine ⟨c, rest, htext, ?_⟩
    rcases hc with rfl | rfl <;> exact ⟨by decide, by decide, .inl (by decide)⟩
  | table => exact ⟨'S', ['B'], rfl, by decide, by decide, .inr rfl⟩
  | roll f =>
    obtain ⟨c, rest, htext, hc⟩ := f.exists_digit
    have hne : ∀ d : Char, d.isDigit = false → c ≠ d := fun d hd => ne_of_isDigit hc hd
    exact ⟨c, rest, htext, hne 'N' (by decide), hne 'B' (by decide), .inl (hne 'S' (by decide))⟩

/-- What a command other than a normal check asks for as it stands. -/
theorem answerPlan_text {form : CommandForm} (hform : ∀ f, form ≠ normalCheck f) :
    system.answerPlan (String.ofList form.text) = form.plan := by
  cases form with
  | normalCheck f => exact absurd rfl (hform f)
  | check f => exact answerPlan_check f
  | table => exact answerPlan_table
  | roll f => exact answerPlan_roll f

/-- The table's command always has an answer, so it is never tried without its first letter. -/
theorem secretPlan_text {form : CommandForm} (hform : ∀ f, form ≠ normalCheck f) :
    ((form.plan).map (·, false)).orElse
        ((system.secretPlan (String.ofList form.text)).map (·, true)) =
      form.plan.map (·, false) := by
  obtain ⟨c, rest, htext, -, -, hS | rfl⟩ := exists_head hform
  · rw [htext, secretPlan_of_head hS]
    cases form.plan <;> rfl
  · rfl

/-- What is written out as a success roll asks for it as it stands. -/
theorem plan_of_expand_successRoll {command : String} {n : Nat} (hn : n < 10 ^ maxDigits)
    {d : Difficulty} (h : system.expand command = .ok (SuccessRoll.command n d.threshold)) :
    system.plan command =
      ((SuccessRoll.plan n d.threshold).map RollReport.text).map (·, false) := by
  obtain ⟨c, rest, htext, hc⟩ := SuccessRoll.exists_digit_command n d.threshold
  have hnone : system.secretPlan (SuccessRoll.command n d.threshold) = .pass := by
    rw [← String.ofList_toList (s := SuccessRoll.command n d.threshold), htext]
    exact secretPlan_of_head (ne_of_isDigit hc (by decide))
  rw [plan_of_expand h, answerPlan_successRoll hn, hnone]
  cases (SuccessRoll.plan n d.threshold) <;> rfl

/-- What is written out as a success roll behind the flag asks for it in secret. -/
theorem plan_of_expand_flagged {command : String} {n : Nat} (hn : n < 10 ^ maxDigits)
    {d : Difficulty}
    (h : system.expand command =
      .ok (String.ofList ('S' :: (SuccessRoll.command n d.threshold).toList))) :
    system.plan command =
      ((SuccessRoll.plan n d.threshold).map RollReport.text).map (·, true) := by
  obtain ⟨c, rest, htext, hc⟩ := SuccessRoll.exists_digit_command n d.threshold
  -- With the flag it is no command, and not the table's either: behind the letter comes a digit.
  have hnone : system.answerPlan
      (String.ofList ('S' :: (SuccessRoll.command n d.threshold).toList)) = .pass := by
    apply answerPlan_of_head
    · rw [htext]
      intro hB
      simp only [List.cons.injEq] at hB
      exact ne_of_isDigit hc (by decide) hB.2.1
    · decide
    · decide
  rw [plan_of_expand h, hnone, secretPlan_flagged, String.ofList_toList,
    answerPlan_successRoll hn]
  rfl

/-- What a normal check asks for, with the flag or without. -/
theorem plan_normalCheck (secret : Bool) (f : NormalCheckForm) :
    system.plan (String.ofList (f.flagged secret)) = (normalCheck f).plan.map (·, secret) := by
  have hexpand : system.expand (String.ofList (f.flagged secret)) = _ :=
    expandNormalCheck_text secret f
  rw [plan]
  cases hcount : readNumber f.count with
  | error fault =>
    rw [hcount] at hexpand
    rw [GameSystem.plan, hexpand]
    rfl
  | ok n =>
    have hn : n < 10 ^ maxDigits := lt_of_readNumber f.count_isNumeral.2 hcount
    rw [hcount] at hexpand
    cases secret with
    | false =>
      apply plan_of_expand_successRoll hn
      rw [← String.empty_append (s := SuccessRoll.command n f.difficulty.threshold)]
      exact hexpand
    | true =>
      apply plan_of_expand_flagged hn
      rw [String.ofList_cons, String.ofList_toList]
      exact hexpand

/-- What a command asks for without the flag. -/
theorem plan_text (form : CommandForm) :
    system.plan (String.ofList form.text) = form.plan.map (·, false) := by
  by_cases hform : ∃ f, form = normalCheck f
  · obtain ⟨f, rfl⟩ := hform
    exact plan_normalCheck false f
  · have hform' : ∀ f, form ≠ normalCheck f := fun f hf => hform ⟨f, hf⟩
    obtain ⟨c, rest, htext, hN, -, hflag⟩ := exists_head hform'
    have hexpand : system.expand (String.ofList form.text) = .ok (String.ofList form.text) := by
      apply expand_of_head
      · simp [htext, hN]
      · rintro tail htail
        rcases hflag with hS | rfl
        · rw [htext, List.cons.injEq] at htail
          exact absurd htail.1 hS
        · simp only [text, List.cons.injEq, true_and] at htail
          simp [← htail]
    rw [plan_of_expand hexpand, answerPlan_text hform', secretPlan_text hform']

/-- What a command asks for behind the flag. -/
theorem plan_flagged_text (form : CommandForm) :
    system.plan (String.ofList ('S' :: form.text)) = form.plan.map (·, true) := by
  by_cases hform : ∃ f, form = normalCheck f
  · obtain ⟨f, rfl⟩ := hform
    exact plan_normalCheck true f
  · have hform' : ∀ f, form ≠ normalCheck f := fun f hf => hform ⟨f, hf⟩
    obtain ⟨c, rest, htext, hN, hB, -⟩ := exists_head hform'
    have hexpand : system.expand (String.ofList ('S' :: form.text)) =
        .ok (String.ofList ('S' :: form.text)) := by
      apply expand_of_head
      · simp
      · intro tail htail
        simp only [List.cons.injEq, true_and] at htail
        simp [← htail, htext, hN]
    have hnone : system.answerPlan (String.ofList ('S' :: form.text)) = .pass := by
      apply answerPlan_of_head
      · simp [htext, hB]
      · decide
      · decide
    rw [plan_of_expand hexpand, hnone, secretPlan_flagged, answerPlan_text hform']
    rfl

/-- A command that has no form, with the flag or without, asks for nothing. -/
theorem plan_of_no_form {command : String}
    (h : ∀ form : CommandForm, command.toList ≠ form.text ∧ command.toList ≠ 'S' :: form.text) :
    system.plan command = .pass := by
  have hexpand : system.expand command = .ok command := by
    apply expandNormalCheck_of_no_form
    intro secret f hf
    cases secret with
    | false => exact (h (normalCheck f)).1 hf.symm
    | true => exact (h (normalCheck f)).2 hf.symm
  have hanswer : system.answerPlan command = .pass := by
    rw [← String.ofList_toList (s := command)]
    exact answerPlan_of_no_form (fun ht => (h table).1 ht) (fun f hf => (h (check f)).1 hf.symm)
      fun f hf => (h (roll f)).1 hf.symm
  -- Without the flag it has no form either, or it would have one with the flag.
  have hsecret : system.secretPlan command = .pass := by
    by_cases hflag : ∃ unflagged, command.toList = 'S' :: unflagged
    · obtain ⟨unflagged, hflag⟩ := hflag
      rw [GameSystem.secretPlan_of_flag hflag]
      apply answerPlan_of_no_form
      · rintro rfl
        exact (h table).2 hflag
      · rintro f rfl
        exact (h (check f)).2 hflag
      · rintro f rfl
        exact (h (roll f)).2 hflag
    · exact GameSystem.secretPlan_of_no_flag fun unflagged hu => hflag ⟨unflagged, hu⟩
  rw [plan_of_expand hexpand, hanswer, hsecret]
  rfl

/-! ## The gate -/

/-- Every command of the game is let through, with the flag or without. -/
theorem start?_isSome (form : CommandForm) :
    (system.start? (String.ofList form.text)).isSome = true ∧
      (system.start? (String.ofList ('S' :: form.text))).isSome = true := by
  have hstart : (Routing.unflaggedStart? system.prefixes form.text).isSome = true := by
    have hmem : ∀ p ∈ ["NJ", "EV", "AT", "EL", "SB"], p ∈ system.prefixes := by decide
    cases form with
    | normalCheck f =>
      exact Routing.unflaggedStart?_isSome_of_prefix (hmem "NJ" (by decide)) ⟨_, rfl⟩
    | check f =>
      cases hletters : f.letters with
      | ev =>
        apply Routing.unflaggedStart?_isSome_of_prefix (hmem "EV" (by decide))
        exact ⟨_, by simp only [text, CheckForm.text, hletters]; rfl⟩
      | «at» =>
        apply Routing.unflaggedStart?_isSome_of_prefix (hmem "AT" (by decide))
        exact ⟨_, by simp only [text, CheckForm.text, hletters]; rfl⟩
      | el =>
        apply Routing.unflaggedStart?_isSome_of_prefix (hmem "EL" (by decide))
        exact ⟨_, by simp only [text, CheckForm.text, hletters]; rfl⟩
    | table => exact Routing.unflaggedStart?_isSome_of_prefix (hmem "SB" (by decide)) ⟨_, rfl⟩
    | roll f => exact Routing.unflaggedStart?_isSome_of_roll _ f
  obtain ⟨hplain, hflagged⟩ := Routing.start?_isSome hstart
  simp only [GameSystem.start?, String.toList_ofList, Option.isSome_map]
  exact ⟨hplain, hflagged⟩

end CommandForm

end ChatDice.NinjaSlayer
