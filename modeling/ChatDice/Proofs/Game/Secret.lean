import ChatDice.Proofs.Game.Gate

/-!
# ChatDice.Proofs.Game.Secret — the flag of a secret roll

A flag in front of a command asks for the same roll in secret. Two commands get in the way of saying
so for every text: the table's command `SB` starts with the letter of the flag itself, and the text
`B`, which is no command, becomes the table's command when the flag is put in front of it. A second
flag is none: what has one already is not answered behind another.

Blanks behind a text are dropped with the flag or without, so they are left out of account first
(`Text.trim_flag`). What remains is a matter of plans: behind the flag stands the plan of the text,
marked as secret.
-/

namespace ChatDice

/-! ## Blanks behind the flag -/

namespace Text

/-- A text that does not start with a blank keeps its first character. -/
theorem trimWhere_cons {p : Char → Bool} {c : Char} (hc : p c = false) (cs : List Char) :
    trimWhere p (c :: cs) = c :: (cs.reverse.dropWhile p).reverse := by
  have hfront : (c :: cs).dropWhile p = c :: cs := List.dropWhile_cons_of_neg (by simp [hc])
  rw [trimWhere, hfront, List.reverse_cons, List.dropWhile_append]
  cases hrest : cs.reverse.dropWhile p with
  | nil => simp [hc]
  | cons d ds => simp

/-- With the flag or without, the same blanks are dropped. -/
theorem trim_flag {command : String} (h : ∀ c ∈ command.toList.head?, isBlank c = false) :
    (trim ("S" ++ command)).toList = 'S' :: (trim command).toList ∧
      (trim command).toList.head? = command.toList.head? := by
  have hflag : isBlank 'S' = false := by decide
  have htext : ("S" ++ command).toList = 'S' :: command.toList := by
    rw [String.toList_append]
    rfl
  rw [trim, trim, String.toList_ofList, String.toList_ofList, htext, trimWhere_cons hflag]
  cases hcs : command.toList with
  | nil => exact ⟨rfl, rfl⟩
  | cons c cs =>
    have hc : isBlank c = false := h c (by rw [hcs]; rfl)
    have hfront : (c :: cs).dropWhile isBlank = c :: cs :=
      List.dropWhile_cons_of_neg (by simp [hc])
    refine ⟨?_, by rw [trimWhere_cons hc]; rfl⟩
    rw [trimWhere, hfront]

end Text

/-! ## The same in secret -/

/-- The result with the mark of a secret roll. -/
def CommandResult.inSecret (result : CommandResult) : CommandResult :=
  { result with secret := true }

/-- The same evaluation with every result in secret. -/
def inSecret {σ : Type} (seen : Except Fault (Option CommandResult) × σ) :
    Except Fault (Option CommandResult) × σ :=
  (seen.1.map (Option.map CommandResult.inSecret), seen.2)

/-- A result is seen in secret only where a result is seen openly. -/
theorem exists_of_inSecret {σ : Type} {seen : Except Fault (Option CommandResult) × σ}
    {result : CommandResult} {s : σ} (h : inSecret seen = (.ok (some result), s)) :
    ∃ found, seen = (.ok (some found), s) ∧ found.inSecret = result := by
  obtain ⟨answer, t⟩ := seen
  cases answer with
  | error fault => simp [inSecret, Except.map] at h
  | ok answer =>
    cases answer with
    | none => simp [inSecret, Except.map] at h
    | some found =>
      simp only [inSecret, Except.map, Option.map_some, Prod.mk.injEq, Except.ok.injEq,
        Option.some.injEq] at h
      exact ⟨found, by rw [h.2], h.1⟩

namespace Plan

variable {σ : Type} [DieSource σ]

/-- A plan marked as secret shows the same in secret. -/
theorem shown_map_true (p : Plan String) (limit : Nat) (s : σ) :
    (p.map (·, true)).shown limit s = inSecret ((p.map (·, false)).shown limit s) := by
  cases p with
  | pass => rfl
  | refuse fault => rfl
  | throwing dice account =>
    rcases Nat.lt_or_ge limit dice.length with hroom | hroom
    · rw [map, map, shown_of_lt hroom, shown_of_lt hroom]
      rfl
    · rw [map, map, shown_of_le hroom, shown_of_le hroom]
      cases account (DieSource.faces dice s) <;> rfl

/-- The result of a marked plan has its mark. -/
theorem secret_of_shown {p : Plan String} {secret : Bool} {limit : Nat} {s : σ}
    {result : CommandResult} (h : ((p.map (·, secret)).shown limit s).1 = .ok (some result)) :
    result.secret = secret := by
  obtain ⟨hmakes, -⟩ := makes_of_shown h
  obtain ⟨text, -, hmark⟩ := hmakes.of_map
  exact (Prod.mk.inj hmark).2.symm

end Plan

namespace NinjaSlayer

/-! ## Plans behind the flag -/

namespace CommandForm

/-- The one command that starts with the letter of the flag is the table's. -/
theorem eq_table_of_head {form : CommandForm} {rest : List Char} (h : form.text = 'S' :: rest) :
    form = table := by
  cases form with
  | normalCheck f => simp [text, NormalCheckForm.text] at h
  | table => rfl
  | check f =>
    obtain ⟨c, tail, htext, hc⟩ := f.exists_letter
    rw [text, htext, List.cons.injEq] at h
    rcases hc with rfl | rfl <;> simp at h
  | roll f =>
    obtain ⟨c, tail, htext, hc⟩ := f.exists_digit
    rw [text, htext, List.cons.injEq] at h
    rw [h.1] at hc
    exact absurd hc (by decide)

end CommandForm

/-- A text without the flag asks behind the flag for the same in secret. -/
theorem exists_plan_flag {command : String} (hB : command ≠ "B")
    (hflag : command.toList.head? ≠ some 'S' ∨ command = "SB") :
    ∃ p : Plan String, system.plan command = p.map (·, false) ∧
      system.plan (String.ofList ('S' :: command.toList)) = p.map (·, true) := by
  by_cases hform : ∃ form : CommandForm, command.toList = form.text
  · obtain ⟨form, hform⟩ := hform
    have hcommand : command = String.ofList form.text := by rw [← hform, String.ofList_toList]
    refine ⟨form.plan, ?_, ?_⟩
    · rw [hcommand, form.plan_text]
    · rw [hform, form.plan_flagged_text]
  · -- It is no command as it stands, hence none behind the flag, unless it is `B`.
    have hplain : ∀ rest, command.toList ≠ 'S' :: rest := by
      rintro rest hrest
      rcases hflag with hhead | rfl
      · exact hhead (by rw [hrest]; rfl)
      · exact hform ⟨.table, rfl⟩
    refine ⟨.pass, ?_, ?_⟩
    · apply CommandForm.plan_of_no_form
      exact fun form => ⟨fun h => hform ⟨form, h⟩, hplain _⟩
    · apply CommandForm.plan_of_no_form
      intro form
      rw [String.toList_ofList]
      constructor
      · intro h
        obtain rfl := CommandForm.eq_table_of_head h.symm
        have hlist : command.toList = "B".toList := (List.cons.inj h).2
        exact hB (String.toList_inj.mp hlist)
      · intro h
        exact hform ⟨form, (List.cons.inj h).2⟩

/-- A text with a flag asks for nothing behind another. -/
theorem plan_second_flag {command : String} (hhead : command.toList.head? = some 'S')
    (htable : command ≠ "SB") :
    system.plan (String.ofList ('S' :: command.toList)) = .pass := by
  obtain ⟨rest, hrest⟩ := List.head?_eq_some_iff.mp hhead
  apply CommandForm.plan_of_no_form
  intro form
  rw [String.toList_ofList]
  constructor
  · intro h
    obtain rfl := CommandForm.eq_table_of_head h.symm
    rw [hrest] at h
    simp [CommandForm.text] at h
  · intro h
    have htext : command.toList = form.text := (List.cons.inj h).2
    obtain rfl := CommandForm.eq_table_of_head (htext.symm.trans hrest)
    have hlist : command.toList = "SB".toList := htext
    exact htable (String.toList_inj.mp hlist)

/-! ## Evaluations behind the flag -/

section
variable {σ : Type} [DieSource σ]

/-- A result in secret comes from a command behind the flag, which has the same result without. -/
theorem exists_open_of_secret {command : String} {r s : Roller σ} {result : CommandResult}
    (h : (system.eval command).run r = .ok (some result) s) (hsecret : result.secret = true) :
    ∃ d : String, Text.trim command = "S" ++ d ∧
      ∃ t, (system.eval d).run r = .ok (some { result with secret := false }) t ∧
        t.source = s.source := by
  have hshown : shown ((system.eval command).run r) = (.ok (some result), s.source) := by
    rw [h]
    rfl
  rw [shown_eval_eq_plan] at hshown
  rcases exists_form_or_pass (Text.trim command) with ⟨secret, form, hform⟩ | hpass
  · rw [hform, form.plan_flagged] at hshown
    have hmark := Plan.secret_of_shown (congrArg Prod.fst hshown)
    obtain rfl : secret = true := by rw [← hmark, hsecret]
    refine ⟨String.ofList form.text, by rw [hform]; exact String.ofList_cons, ?_⟩
    -- Without the flag the same plan is carried out, and its result becomes this one in secret.
    have hopen : shown ((system.eval (String.ofList form.text)).run r) =
        (form.plan.map (·, false)).shown r.limit r.source := by
      rw [shown_eval_eq_plan, Text.trim_of_noBlanks form.noBlanks, form.plan_text]
    rw [Plan.shown_map_true, ← hopen] at hshown
    obtain ⟨found, hfound, rfl⟩ := exists_of_inSecret hshown
    have hanswer : answerOf ((system.eval (String.ofList form.text)).run r) = .ok (some found) := by
      rw [← fst_shown, hfound]
    obtain ⟨t, hrun⟩ := exists_eq_ok_of_answerOf hanswer
    have hsource : t.source = s.source := by
      rw [hrun] at hfound
      exact congrArg Prod.snd hfound
    rw [hopen] at hfound
    have hunmarked : found.secret = false := Plan.secret_of_shown (congrArg Prod.fst hfound)
    refine ⟨t, ?_, hsource⟩
    rw [hrun, CommandResult.inSecret, ← hunmarked]
  · rw [hpass, Plan.shown_pass] at hshown
    cases hshown

/-- The flag of a secret roll changes nothing but the flag. A text that has none, or that is the
table's command, comes behind the flag to the same: an open result becomes the same one in secret, a
fault stays the same fault, no answer stays no answer, and the source is left at the same place. A
text that has a flag is not answered behind another. And every secret result is that of a command
behind the flag, which from the same roller has the same result openly. -/
theorem eval_flag (r : Roller σ) :
    (∀ command : String, (∀ c ∈ command.toList.head?, Text.isBlank c = false) →
      Text.trim command ≠ "B" →
        (command.toList.head? ≠ some 'S' ∨ Text.trim command = "SB" →
          shown ((system.eval ("S" ++ command)).run r) =
              inSecret (shown ((system.eval command).run r)) ∧
            ∀ result s, (system.eval command).run r = .ok (some result) s →
              result.secret = false) ∧
        (command.toList.head? = some 'S' → Text.trim command ≠ "SB" →
          shown ((system.eval ("S" ++ command)).run r) = (.ok none, r.source))) ∧
      ∀ (command : String) (result : CommandResult) (s : Roller σ),
        (system.eval command).run r = .ok (some result) s → result.secret = true →
          ∃ d : String, Text.trim command = "S" ++ d ∧
            ∃ t, (system.eval d).run r = .ok (some { result with secret := false }) t ∧
              t.source = s.source := by
  refine ⟨?_, fun command result s h hsecret => exists_open_of_secret h hsecret⟩
  intro command hfront hB
  obtain ⟨htrim, hhead⟩ := Text.trim_flag hfront
  have hflagged : Text.trim ("S" ++ command) =
      String.ofList ('S' :: (Text.trim command).toList) := by
    rw [← htrim, String.ofList_toList]
  constructor
  · intro hflag
    rw [← hhead] at hflag
    obtain ⟨p, hopen, hsecret⟩ := exists_plan_flag hB hflag
    constructor
    · rw [shown_eval_eq_plan, shown_eval_eq_plan, hflagged, hopen, hsecret, Plan.shown_map_true]
    · intro result s h
      have hfirst : ((p.map (·, false)).shown r.limit r.source).1 = .ok (some result) := by
        rw [← hopen, ← shown_eval_eq_plan, h]
        rfl
      exact Plan.secret_of_shown hfirst
  · intro hflag htable
    rw [← hhead] at hflag
    rw [shown_eval_eq_plan, hflagged, plan_second_flag hflag htable, Plan.shown_pass]

end

/-- The table's command starts with the letter of the flag and takes the flag like the others, a
second flag has no answer, and a check in secret has the same text as without the flag. -/
theorem eval_flag_table :
    let r : Roller Replay := { source := { faces := #[3] }, limit := 1 }
    let text := "(1B6>=4) ＞ 3 ＞ Successes: 0"
    shown ((system.eval "SSB ").run r) = inSecret (shown ((system.eval "SB ").run r)) ∧
      shown ((system.eval "SSNJ1").run r) = (.ok none, r.source) ∧
      answerOf ((system.eval "SNJ1").run r) =
        .ok (some { text, secret := true, draws := [⟨3, 6⟩] }) ∧
      ∃ d : String, Text.trim "SNJ1" = "S" ++ d ∧
        ∃ t, (system.eval d).run r = .ok (some { text, secret := false, draws := [⟨3, 6⟩] }) t := by
  intro r text
  have hfront : ∀ c ∈ some 'S', Text.isBlank c = false := by
    rintro c ⟨⟩
    decide
  obtain ⟨htable, -⟩ := (eval_flag r).1 "SB " hfront (by decide)
  obtain ⟨-, hsecond⟩ := (eval_flag r).1 "SNJ1" hfront (by decide)
  have hsecret : answerOf ((system.eval "SNJ1").run r) =
      .ok (some { text, secret := true, draws := [⟨3, 6⟩] }) := by
    decide +kernel
  obtain ⟨s, hrun⟩ := exists_eq_ok_of_answerOf hsecret
  obtain ⟨d, hd, t, hopen, -⟩ := (eval_flag r).2 "SNJ1" _ s hrun rfl
  exact ⟨(htable (.inr (by decide))).1, hsecond (by decide) (by decide), hsecret, d, hd, t, hopen⟩

end NinjaSlayer

end ChatDice
