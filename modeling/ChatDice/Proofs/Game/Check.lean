import ChatDice.Proofs.Game.Commands
import ChatDice.Random.Replay

/-!
# ChatDice.Proofs.Game.Check — what checks answer

A check goes a long way round to its answer: it writes a command, the command is read as a B roll,
the roll counts its successes over all groups, and the check counts again over the last group. There
is one group, so the counts agree, and the answer can be said of the faces alone.

`Check.plan_eq` says that a check throws as many six-sided dice as it states, and that its account
is what `Check.annotate` makes of the report of the roll. From it follow the answers to the four
checks as functions of the next faces of the source.
-/

namespace ChatDice

/-! ## Accounts -/

theorem joinStages_pair (first second : String) :
    joinStages [first, second] = first ++ " ＞ " ++ second := by
  simp only [joinStages, stageSeparator, String.intercalate_cons_cons,
    String.intercalate_singleton, String.append_assoc]

namespace SuccessRoll

/-- The account of a success roll: what was rolled, the faces, and how many reach the threshold. -/
def account (n threshold : Nat) (faces : List Nat) : String :=
  "(" ++ toString n ++ "B6>=" ++ toString threshold ++ ") ＞ " ++
    ",".intercalate (faces.map toString) ++ " ＞ Successes: " ++
    toString (faces.countP (threshold ≤ ·))

theorem written_roll (n threshold : Nat) : (roll n threshold).written = command n threshold := by
  have hcast : toString (threshold : Int) = toString threshold := rfl
  have hsix : toString 6 = "6" := rfl
  have hsign : "B" ++ ("6" ++ ">=") = "B6>=" := by decide
  simp only [BRoll.written, roll, List.map_cons, List.map_nil, String.intercalate_singleton,
    DiceGroup.render, Option.map_some, Option.getD_some, Comparison.written, CompareOp.sign,
    command, hcast, hsix, ← hsign, String.append_assoc]

theorem account_eq (n threshold : Nat) (faces : List Nat) :
    joinStages ["(" ++ (roll n threshold).written ++ ")", renderFaces [faces],
      s!"Successes: {faces.countP (threshold ≤ ·)}"] = account n threshold faces := by
  have hlabel : " ＞ " ++ "Successes: " = " ＞ Successes: " := by decide
  have hclosing : ")" ++ " ＞ " = ") ＞ " := by decide
  have hstring : ∀ s : String, toString s = s := fun s => rfl
  simp only [joinStages, stageSeparator, renderFaces, written_roll, command,
    String.intercalate_cons_cons, List.map_cons, List.map_nil, String.intercalate_singleton,
    account, ← hlabel, ← hclosing, hstring, String.append_assoc]

/-- The one group of the roll is its last, so all counts are over the same faces. -/
theorem report_eq (n threshold : Nat) (faces : List Nat) :
    report n threshold faces =
      { text := account n threshold faces
        successes := faces.countP (threshold ≤ ·)
        faces
        lastFaces := faces } := by
  have haccepts : (fun face => Comparison.accepts ⟨.ge, threshold⟩ face) =
      fun face => decide (threshold ≤ face) := by
    funext face
    simp [Comparison.accepts, CompareOp.holds]
  rw [← account_eq]
  simp only [report, BRoll.writtenReport, BRoll.reportAs, roll, List.flatten_cons, List.flatten_nil,
    List.append_nil, haccepts]
  rfl

end SuccessRoll

namespace Check

/-- The command of a check, as long as the number of its dice can be written. -/
theorem command_of_writable {c : Check} (hcount : Writable c.count) :
    c.command = .ok (SuccessRoll.command c.count c.difficulty.threshold) :=
  SuccessRoll.successCommand_of_writable hcount c.difficulty.threshold_lt

theorem command_of_not_writable {c : Check} (hlong : ¬Writable c.count) :
    c.command = .error .unwritableNumber :=
  SuccessRoll.successCommand_of_not_writable hlong _

/-- A check throws its dice and annotates their report; the roll that it writes is always one. -/
theorem plan_eq {c : Check} (hcount : c.count < 10 ^ maxDigits) :
    c.plan = .throwing (List.replicate c.count 6) fun faces =>
      .ok (c.annotate
        (SuccessRoll.report c.count c.difficulty.threshold (faces.take c.count))) := by
  have hthreshold := c.difficulty.threshold_lt
  have hpos := c.count_pos
  rw [plan, command_of_writable (writable_of_lt hcount)]
  simp only [SuccessRoll.plan_command hcount hthreshold, SuccessRoll.plan,
    if_neg (Nat.ne_of_gt hpos)]
  rfl

section
variable {n : Nat} (hpos : 0 < n) (d : Difficulty) (faces : List Nat)

/-- Without a target an evasion adds nothing. -/
theorem annotate_evasion_none :
    annotate ⟨.evasion none, n, d, hpos⟩ (SuccessRoll.report n d.threshold faces) =
      SuccessRoll.account n d.threshold faces := by
  rw [SuccessRoll.report_eq]
  rfl

theorem annotate_evasion_some (target : Nat) :
    annotate ⟨.evasion (some target), n, d, hpos⟩ (SuccessRoll.report n d.threshold faces) =
      if target < faces.countP (d.threshold ≤ ·) then
        SuccessRoll.account n d.threshold faces ++ " ＞ counter-strike"
      else SuccessRoll.account n d.threshold faces := by
  have hlabel : " ＞ " ++ "counter-strike" = " ＞ counter-strike" := by decide
  rw [SuccessRoll.report_eq, annotate]
  simp only [Option.any_some, decide_eq_true_eq, joinStages_pair, String.append_assoc, hlabel]

theorem annotate_meleeAttack :
    annotate ⟨.meleeAttack, n, d, hpos⟩ (SuccessRoll.report n d.threshold faces) =
      if 2 ≤ faces.count 6 then SuccessRoll.account n d.threshold faces ++ " ＞ brutal hit"
      else SuccessRoll.account n d.threshold faces := by
  have hlabel : " ＞ " ++ "brutal hit" = " ＞ brutal hit" := by decide
  rw [SuccessRoll.report_eq, annotate]
  simp only [maxFace, joinStages_pair, String.append_assoc, hlabel]

/-- The successes that electronic warfare counts over the last group are those of the roll. -/
theorem annotate_electronicWarfare :
    annotate ⟨.electronicWarfare, n, d, hpos⟩ (SuccessRoll.report n d.threshold faces) =
      if faces.count 6 = 0 then SuccessRoll.account n d.threshold faces
      else
        SuccessRoll.account n d.threshold faces ++ " + " ++ toString (faces.count 6) ++ " ＞ " ++
          toString (faces.countP (d.threshold ≤ ·) + faces.count 6) := by
  rw [SuccessRoll.report_eq, annotate]
  simp only [maxFace, joinStages_pair]

end

end Check

/-! ## Answers -/

namespace NinjaSlayer

section
variable {σ : Type} [DieSource σ]

/-- Six-sided dice within the limit are all drawn, and the result is made of their faces. -/
theorem carryOut_sixes {n : Nat} {account : List Nat → Except Fault String} {r : Roller σ}
    {text : String} (hlimit : n ≤ r.limit)
    (haccount : account (DieSource.faces (List.replicate n 6) r.source) = .ok text)
    (secret : Bool) :
    GameSystem.carryOut ((Plan.throwing (List.replicate n 6) account).map (·, secret)) r =
      .ok (some { text, secret
                  draws := (DieSource.faces (List.replicate n 6) r.source).map (⟨·, 6⟩) })
        (r.cleared.drawn (List.replicate n 6)) := by
  have hroom : (List.replicate n 6).length ≤ r.cleared.room := by simpa using hlimit
  rw [GameSystem.carryOut, Plan.map, Plan.result_of_le hroom, Roller.source_cleared, haccount]
  simp [Except.map, DieSource.draws_replicate]

/-- A command is answered with a text, openly, and draws exactly so many six-sided dice. -/
def AnswersWith (r : Roller σ) (n : Nat) (command : List Char) (text : String) : Prop :=
  Rolling.outcome (system.eval (String.ofList command)) r =
    .ok (some { text, secret := false
                draws := (DieSource.faces (List.replicate n 6) r.source).map (⟨·, 6⟩) })
      (r.cleared.drawn (List.replicate n 6)).unlogged

/-- The way from the form of a check to the annotation of its report. -/
theorem answersWith_check (f : CheckForm) {r : Roller σ} {n : Nat} {target : Option Nat}
    (hvalue : numeralValue f.count = n) (hpos : 0 < n) (hlimit : n ≤ r.limit)
    (hsize : n < 10 ^ maxDigits) (htarget : f.target.mapM readNumber = .ok target) :
    AnswersWith r n f.text
      (Check.annotate ⟨f.letters.kind target, n, f.difficulty, hpos⟩
        (SuccessRoll.report n f.difficulty.threshold
          (DieSource.faces (List.replicate n 6) r.source))) := by
  have hcount : readNumber f.count = .ok n := readNumber_of_value f.count_isNumeral hvalue hsize
  have hreading : f.reading =
      .ok (.check ⟨f.letters.kind target, n, f.difficulty, hpos⟩) := by
    rw [CheckForm.reading, hcount, htarget]
    simp only [bind, Except.bind, dif_pos hpos]
    rfl
  have hplan : (CommandForm.check f).plan =
      Check.plan ⟨f.letters.kind target, n, f.difficulty, hpos⟩ := by
    rw [CommandForm.plan, hreading]
  have houtcome := (CommandForm.check f).outcome_text r
  rw [hplan, Check.plan_eq hsize, carryOut_sixes hlimit rfl, SuccessRoll.take_faces] at houtcome
  exact houtcome

theorem answersWith_normalCheck (f : NormalCheckForm) {r : Roller σ} {n : Nat}
    (hvalue : numeralValue f.count = n) (hpos : 0 < n) (hlimit : n ≤ r.limit)
    (hsize : n < 10 ^ maxDigits) :
    AnswersWith r n f.text
      (SuccessRoll.account n f.difficulty.threshold
        (DieSource.faces (List.replicate n 6) r.source)) := by
  have hcount : readNumber f.count = .ok n := readNumber_of_value f.count_isNumeral hvalue hsize
  have hplan : (CommandForm.normalCheck f).plan =
      (SuccessRoll.plan n f.difficulty.threshold).map RollReport.text := by
    rw [CommandForm.plan, hcount]
  have houtcome := (CommandForm.normalCheck f).outcome_text r
  rw [hplan, SuccessRoll.plan, if_neg (by omega)] at houtcome
  rw [Plan.map, carryOut_sixes hlimit rfl, SuccessRoll.take_faces,
    SuccessRoll.report_eq] at houtcome
  exact houtcome

/-- The answers to the four checks, for every number of dice that can be read and that the limit
allows, and for every way to state a difficulty. With the next faces of the source, `account` is the
account of the roll; every check answers with it, and adds what its kind reads out of the faces. -/
theorem eval_checks (r : Roller σ) {count suffix : List Char} {n : Nat} {d : Difficulty}
    (hcount : IsNumeral count) (hvalue : numeralValue count = n)
    (hsuffix : Difficulty.Stated suffix d) (hpos : 1 ≤ n) (hlimit : n ≤ r.limit)
    (hsize : n < 10 ^ 18) :
    let faces := DieSource.faces (List.replicate n 6) r.source
    let successes := faces.countP (d.threshold ≤ ·)
    let sixes := faces.count 6
    let account := "(" ++ toString n ++ "B6>=" ++ toString d.threshold ++ ") ＞ " ++
      ",".intercalate (faces.map toString) ++ " ＞ Successes: " ++ toString successes
    AnswersWith r n ("NJ".toList ++ count ++ suffix) account ∧
      AnswersWith r n ("EV".toList ++ count ++ suffix) account ∧
      (∀ target : List Char, IsNumeral target → numeralValue target < 10 ^ 18 →
        AnswersWith r n ("EV".toList ++ count ++ suffix ++ '/' :: target)
          (if numeralValue target < successes then account ++ " ＞ counter-strike" else account)) ∧
      AnswersWith r n ("AT".toList ++ count ++ suffix)
        (if 2 ≤ sixes then account ++ " ＞ brutal hit" else account) ∧
      AnswersWith r n ("EL".toList ++ count ++ suffix)
        (if sixes = 0 then account
          else account ++ " + " ++ toString sixes ++ " ＞ " ++ toString (successes + sixes)) := by
  intro faces successes sixes account
  -- All three letters lead to the same report; what they make of it is said by `annotate`.
  have hplain : ∀ letters : CheckLetters,
      AnswersWith r n (letters.text ++ count ++ suffix)
        (Check.annotate ⟨letters.kind none, n, d, hpos⟩
          (SuccessRoll.report n d.threshold faces)) := by
    intro letters
    let f : CheckForm := ⟨letters, count, suffix, d, none, hcount, hsuffix, by simp, by simp⟩
    have htext : f.text = letters.text ++ count ++ suffix := by
      simp [f, CheckForm.text, CheckForm.ending]
    rw [← htext]
    exact answersWith_check f hvalue hpos hlimit hsize rfl
  refine ⟨?_, ?_, ?_, ?_, ?_⟩
  · exact answersWith_normalCheck ⟨count, suffix, d, hcount, hsuffix⟩ hvalue hpos hlimit hsize
  · have h := hplain .ev
    rwa [CheckLetters.kind, Check.annotate_evasion_none] at h
  · intro target htarget htargetSize
    let f : CheckForm := ⟨.ev, count, suffix, d, some target, hcount, hsuffix,
      by simpa using htarget, by simp⟩
    have htext : f.text = "EV".toList ++ count ++ suffix ++ '/' :: target := by
      simp [f, CheckForm.text, CheckForm.ending, CheckLetters.text]
    have hread : f.target.mapM readNumber = .ok (some (numeralValue target)) := by
      show (some target).mapM readNumber = _
      simp only [Option.mapM_some, readNumber_of_value htarget rfl htargetSize]
      rfl
    have h := answersWith_check f hvalue hpos hlimit hsize hread
    rwa [htext, CheckLetters.kind, Check.annotate_evasion_some] at h
  · have h := hplain .at
    rwa [CheckLetters.kind, Check.annotate_meleeAttack] at h
  · have h := hplain .el
    rwa [CheckLetters.kind, Check.annotate_electronicWarfare] at h

end

/-- Electronic warfare with three dice that show two sixes. -/
theorem eval_checks_two_sixes :
    let r : Roller Replay := { source := { faces := #[6, 4, 6] }, limit := 10 }
    AnswersWith r 3 "EL03@h".toList "(3B6>=5) ＞ 6,4,6 ＞ Successes: 2 + 2 ＞ 4" := by
  intro r
  have hcount : IsNumeral ['0', '3'] := by decide
  have hvalue : numeralValue ['0', '3'] = 3 := by decide
  have hsuffix : Difficulty.Stated ['@', 'h'] .hard :=
    .behindAt (show ['h'] ∈ Difficulty.hard.spellings by decide)
  have hfaces : DieSource.faces (List.replicate 3 6) r.source = [6, 4, 6] := by decide
  obtain ⟨-, -, -, -, h⟩ :=
    eval_checks r hcount hvalue hsuffix (by decide) (by decide) (by decide)
  simp only [hfaces] at h
  exact h

/-- The bound on the number of dice is needed: a roller may allow `10 ^ 18` draws, but no command
can ask for as many, since their number has a digit too many to be read. -/
theorem not_answersWith_of_nineteen_digits :
    let r : Roller Replay := { source := { faces := #[1] }, limit := 10 ^ 18 }
    let count := "1000000000000000000".toList
    IsNumeral count ∧ numeralValue count = 10 ^ 18 ∧ 10 ^ 18 ≤ r.limit ∧
      Rolling.outcome (system.eval "NJ1000000000000000000") r = .error (.numberTooLarge 19) r ∧
      ∀ text, ¬ AnswersWith r (10 ^ 18) ("NJ".toList ++ count) text := by
  intro r count
  have hcount : IsNumeral count := by decide +kernel
  have hvalue : numeralValue count = 10 ^ 18 := by decide +kernel
  have hread : readNumber count = .error (.numberTooLarge 19) := rfl
  have houtcome : Rolling.outcome (system.eval "NJ1000000000000000000") r =
      .error (.numberTooLarge 19) r := by
    have h := (CommandForm.normalCheck ⟨count, [], .normal, hcount, .absent⟩).outcome_text r
    rw [CommandForm.plan] at h
    simp only [hread] at h
    exact h
  refine ⟨hcount, hvalue, Nat.le_refl _, houtcome, ?_⟩
  intro text htext
  have hcommand : String.ofList ("NJ".toList ++ count) = "NJ1000000000000000000" := by decide
  rw [AnswersWith, hcommand, houtcome] at htext
  cases htext

end NinjaSlayer

end ChatDice
