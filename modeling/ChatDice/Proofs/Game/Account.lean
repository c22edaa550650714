import ChatDice.Proofs.Dice.Account
import ChatDice.Proofs.Game.Check
import ChatDice.Proofs.Game.Gate
import ChatDice.Proofs.Game.NormalCheck

/-!
# ChatDice.Proofs.Game.Account — what an answer shows of the dice

Players see the text of an answer and not the draws behind it. The text hides nothing of them: how
many dice were thrown, with how many sides each, and which face every die showed can be read off it.
`drawsShown?` is such a reading. It knows nothing of the command, the roller or the source.

Texts come from two places. Rolls and checks give the account of a B roll, and a check may add to
it; the table gives its name and the face of its die. The first kind starts with a parenthesis, the
second with a letter, so a text of one kind is not read as one of the other.
-/

namespace ChatDice

/-! ## Texts of checks -/

namespace Check

/-- A check leaves the account of its roll as it is, or goes on behind it with a blank. -/
theorem exists_text_annotate (c : Check) (report : RollReport) :
    ∃ rest, NoDigitFirst rest ∧ (c.annotate report).toList = report.text.toList ++ rest := by
  have hstage : ∀ stage : String, ∃ rest, NoDigitFirst rest ∧
      (joinStages [report.text, stage]).toList = report.text.toList ++ rest := by
    intro stage
    refine ⟨(" ＞ " ++ stage).toList, ?_, ?_⟩
    · rw [String.toList_append]
      exact noDigitFirst_cons (by decide)
    · rw [joinStages_pair, String.append_assoc, String.toList_append]
  have hsame : ∃ rest, NoDigitFirst rest ∧ report.text.toList = report.text.toList ++ rest :=
    ⟨[], noDigitFirst_nil, by rw [List.append_nil]⟩
  cases hkind : c.kind with
  | evasion target =>
    simp only [annotate, hkind]
    split
    · exact hstage "counter-strike"
    · exact hsame
  | meleeAttack =>
    simp only [annotate, hkind]
    split
    · exact hstage "brutal hit"
    · exact hsame
  | electronicWarfare =>
    simp only [annotate, hkind]
    split
    · exact hsame
    · rw [joinStages_pair]
      simp only [String.append_assoc]
      refine ⟨_, ?_, String.toList_append⟩
      rw [String.toList_append]
      exact noDigitFirst_cons (by decide)

/-- The text of a check is an account of its draws. -/
theorem accountOf_of_makes {c : Check} {draws : List Draw} {text : String}
    (h : c.plan.Makes draws text) : BRoll.AccountOf draws text.toList := by
  obtain ⟨command, report, -, hreport, rfl⟩ := exists_of_makes h
  obtain ⟨rest, hrest, htext⟩ := c.exists_text_annotate report
  rw [htext]
  exact (BRoll.accountOf_of_makes (by simp) hreport).append hrest

end Check

/-! ## Texts of tables -/

namespace DiceTable

/-- The draw that the entry of a table shows: the number behind the table's name is the face. -/
def drawsShown? (t : DiceTable) (cs : List Char) : Option (List Draw) :=
  (numbersIn (cs.drop t.name.length)).head?.map fun face => [⟨face, t.sides⟩]

/-- A table makes a text of one draw, and behind its name the text shows the face. -/
theorem text_of_makes {t : DiceTable} {draws : List Draw} {text : String}
    (h : t.plan.Makes draws text) (hfaces : ∀ d ∈ draws, 1 ≤ d.face) :
    ∃ face rest, draws = [⟨face, t.sides⟩] ∧
      text.toList = t.name.toList ++ '(' :: ((toString face).toList ++ ')' :: rest) := by
  unfold plan at h
  split at h
  · cases h
  · cases h with
    | throwing hdice hentry =>
      obtain ⟨d, rfl⟩ := List.length_eq_one_iff.mp (by simpa using congrArg List.length hdice)
      have hsides : d.sides = t.sides := by simpa using hdice
      have hface : d.face - 1 + 1 = d.face := by
        have hpos := hfaces d (by simp)
        omega
      simp only [List.map_cons, List.headD_cons, entryFor, hface] at hentry
      split at hentry
      · rename_i body _
        simp only [Except.ok.injEq] at hentry
        refine ⟨d.face, (" ＞ " ++ body).toList, by rw [← hsides], ?_⟩
        rw [← hentry, TableResult.render, joinStages_pair]
        simp
      · cases hentry

theorem drawsShown?_of_makes {t : DiceTable} {draws : List Draw} {text : String}
    (h : t.plan.Makes draws text) (hfaces : ∀ d ∈ draws, 1 ≤ d.face) :
    t.drawsShown? text.toList = some draws := by
  obtain ⟨face, rest, rfl, htext⟩ := text_of_makes h hfaces
  have hopening : ∀ c ∈ ['('], c.isDigit = false := by simp
  have hnumbers := numbersIn_append hopening ((toString face).toList ++ ')' :: rest)
  rw [drawsShown?, htext, ← String.length_toList, List.drop_left]
  rw [List.singleton_append, numbersIn_toString face (noDigitFirst_cons (by decide))] at hnumbers
  rw [hnumbers]
  rfl

end DiceTable

/-! ## Texts of the game -/

namespace NinjaSlayer

/-- The draws that the text of an answer shows. -/
def drawsShown? (text : String) : Option (List Draw) :=
  (BRoll.drawsShown? text.toList).or (satsubatsuTable.drawsShown? text.toList)

theorem drawsShown?_of_accountOf {draws : List Draw} {text : String}
    (h : BRoll.AccountOf draws text.toList) : drawsShown? text = some draws := by
  rw [drawsShown?, h.drawsShown?, Option.some_or]

/-- The comparison that the game puts in the place of a missing one can be read. -/
theorem legible_fallback :
    ∀ f ∈ system.fallback?, ∀ c, f.comparison = .ok c → c.Legible := by
  intro f hf c hc
  obtain rfl : f = ⟨">=", Difficulty.normal.threshold⟩ := (Option.some.inj hf).symm
  obtain rfl : c = ⟨.ge, Difficulty.normal.threshold⟩ := (Except.ok.inj hc).symm
  exact ⟨by decide, by decide⟩

namespace CommandForm

theorem drawsShown?_of_makes_roll {f : BRollForm} {draws : List Draw} {text : String}
    (h : (roll f).plan.Makes draws text) : drawsShown? text = some draws := by
  obtain ⟨report, hreport, rfl⟩ := Plan.Makes.of_map h
  exact drawsShown?_of_accountOf (BRoll.accountOf_of_makes legible_fallback hreport)

/-- What a command makes of its draws shows them. -/
theorem drawsShown?_of_makes {form : CommandForm} {draws : List Draw} {text : String}
    (h : form.plan.Makes draws text) (hfaces : ∀ d ∈ draws, 1 ≤ d.face) :
    drawsShown? text = some draws := by
  cases form with
  | normalCheck f =>
    rw [← plan_successRoll] at h
    exact drawsShown?_of_makes_roll h
  | check f =>
    rw [plan] at h
    split at h
    · exact drawsShown?_of_accountOf (Check.accountOf_of_makes h)
    · cases h
    · cases h
  | table =>
    have htable := DiceTable.drawsShown?_of_makes h hfaces
    obtain ⟨face, rest, -, htext⟩ := DiceTable.text_of_makes h hfaces
    have hroll : BRoll.drawsShown? text.toList = none := by
      rw [htext]
      rfl
    rw [drawsShown?, hroll, Option.none_or, htable]
  | roll f => exact drawsShown?_of_makes_roll h

end CommandForm

section
variable {σ : Type} [DieSource σ] [LawfulDieSource σ]

/-- The text of a result shows the draws of the result. -/
theorem drawsShown?_text {command : String} {r : Roller σ} {result : CommandResult}
    (h : answerOf ((system.eval command).run r) = .ok (some result)) :
    drawsShown? result.text = some result.draws := by
  rw [← fst_shown, shown_eval_eq_plan] at h
  obtain ⟨hmakes, hdraws⟩ := Plan.makes_of_shown h
  have hfaces : ∀ d ∈ result.draws, 1 ≤ d.face := by
    rw [hdraws]
    intro d hd
    exact (DieSource.face_mem_of_mem_draws (system.plan_throwable _) hd).1
  rcases exists_form_or_pass (Text.trim command) with ⟨secret, form, hform⟩ | hpass
  · rw [hform, form.plan_flagged] at hmakes
    obtain ⟨text, hmakes, htext⟩ := hmakes.of_map
    obtain rfl := (Prod.mk.inj htext).1
    exact form.drawsShown?_of_makes hmakes hfaces
  · rw [hpass] at hmakes
    cases hmakes

/-- The text is a faithful account of the dice. From the text of a result alone, all of its draws
can be read: how many dice there were, the sides of each and the faces in their order. So two
results with one text have the same draws, whatever the commands were, wherever the sources stood
and whatever came before. -/
theorem draws_eq_of_text_eq {τ : Type} [DieSource τ] [LawfulDieSource τ] {first second : String}
    {r : Roller σ} {s : Roller τ} {a b : CommandResult}
    (ha : answerOf ((system.eval first).run r) = .ok (some a))
    (hb : answerOf ((system.eval second).run s) = .ok (some b)) :
    drawsShown? a.text = some a.draws ∧ (a.text = b.text → a.draws = b.draws) := by
  have hfirst := drawsShown?_text ha
  refine ⟨hfirst, ?_⟩
  intro htext
  have hsecond := drawsShown?_text hb
  rw [← htext, hfirst] at hsecond
  exact Option.some.inj hsecond

end

/-- A check and a B roll in secret, with zeros in front of its number and no difficulty. -/
theorem draws_eq_of_text_eq_secret :
    let r : Roller Replay := { source := { faces := #[4, 2, 5] }, limit := 3 }
    let s : Roller Replay := { source := { faces := #[10, 8, 11] }, limit := 20 }
    let text := "(3B6>=4) ＞ 4,2,5 ＞ Successes: 2"
    let a : CommandResult := { text, secret := false, draws := [⟨4, 6⟩, ⟨2, 6⟩, ⟨5, 6⟩] }
    let b : CommandResult := { text, secret := true, draws := [⟨4, 6⟩, ⟨2, 6⟩, ⟨5, 6⟩] }
    answerOf ((system.eval "NJ3").run r) = .ok (some a) ∧
      answerOf ((system.eval "S003b6").run s) = .ok (some b) ∧
      drawsShown? a.text = some a.draws ∧ a.draws = b.draws := by
  intro r s text a b
  have ha : answerOf ((system.eval "NJ3").run r) = .ok (some a) := by decide +kernel
  have hb : answerOf ((system.eval "S003b6").run s) = .ok (some b) := by decide +kernel
  obtain ⟨hshown, heq⟩ := draws_eq_of_text_eq ha hb
  exact ⟨ha, hb, hshown, heq rfl⟩

end NinjaSlayer

end ChatDice
