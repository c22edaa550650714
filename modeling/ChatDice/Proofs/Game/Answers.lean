import ChatDice.Proofs.Game.Session

/-!
# ChatDice.Proofs.Game.Answers — what shows of an evaluation

Players see the answer to a command, or the fault that it ends in. The next command sees the source
where this one has left it. `shown` is this pair, and records and logs are no part of it.

What shows of a plan that is carried out is a function of the limit and of the source (`Plan.shown`,
`GameSystem.shown_carryOut`). So no command depends on the record that the one before leaves, and a
command that draws nothing leaves no trace at all. A command is unplayed if it has no answer or
states a number that is too large; all numbers are read before the first die is thrown
(`Plan.NumbersFirst`), hence unplayed commands draw nothing.

`GameSystem.answers_kept` puts this together for sessions: unplayed commands may be left out, and
the answers to the other commands stay what they are.
-/

namespace ChatDice

/-! ## What shows -/

section
variable {σ α : Type}

/-- The answer or the fault of an evaluation. -/
def answerOf : EStateM.Result Fault (Roller σ) α → Except Fault α
  | .ok a _ => .ok a
  | .error fault _ => .error fault

/-- The answer or the fault of an evaluation, and the source behind its draws. -/
def shown (result : EStateM.Result Fault (Roller σ) α) : Except Fault α × σ :=
  (answerOf result, (rollerLeft result).source)

@[simp] theorem fst_shown (result : EStateM.Result Fault (Roller σ) α) :
    (shown result).1 = answerOf result := rfl

@[simp] theorem snd_shown (result : EStateM.Result Fault (Roller σ) α) :
    (shown result).2 = (rollerLeft result).source := rfl

/-- Log records do not show. -/
@[simp] theorem shown_withoutLog (result : EStateM.Result Fault (Roller σ) α) :
    shown (withoutLog result) = shown result := by
  cases result <;> rfl

/-- An evaluation that shows an answer has ended with it. -/
theorem exists_eq_ok_of_answerOf {result : EStateM.Result Fault (Roller σ) α} {a : α}
    (h : answerOf result = .ok a) : ∃ r, result = .ok a r := by
  cases result with
  | ok b r =>
    have hb : b = a := Except.ok.inj h
    exact ⟨r, by rw [hb]⟩
  | error fault r => cases h

end

section
variable {σ : Type} [DieSource σ]

namespace Plan

/-- What shows of a plan that is carried out within a limit. -/
def shown (p : Plan (String × Bool)) (limit : Nat) (s : σ) :
    Except Fault (Option CommandResult) × σ :=
  match p with
  | pass => (.ok none, s)
  | refuse fault => (.error fault, s)
  | throwing dice account =>
    if dice.length ≤ limit then
      ((account (DieSource.faces dice s)).map fun (text, secret) =>
        some { text, secret, draws := DieSource.draws dice s }, DieSource.after dice s)
    else (.error (.drawLimit limit), DieSource.after (dice.take limit) s)

@[simp] theorem shown_pass (limit : Nat) (s : σ) :
    (pass : Plan (String × Bool)).shown limit s = (.ok none, s) := rfl

@[simp] theorem shown_refuse (fault : Fault) (limit : Nat) (s : σ) :
    (refuse fault : Plan (String × Bool)).shown limit s = (.error fault, s) := rfl

theorem shown_of_le {dice : List Nat} {account : List Nat → Except Fault (String × Bool)}
    {limit : Nat} (h : dice.length ≤ limit) (s : σ) :
    (throwing dice account).shown limit s =
      ((account (DieSource.faces dice s)).map fun (text, secret) =>
        some { text, secret, draws := DieSource.draws dice s }, DieSource.after dice s) := by
  rw [shown, if_pos h]

theorem shown_of_lt {dice : List Nat} {account : List Nat → Except Fault (String × Bool)}
    {limit : Nat} (h : limit < dice.length) (s : σ) :
    (throwing dice account).shown limit s =
      (.error (.drawLimit limit), DieSource.after (dice.take limit) s) := by
  rw [shown, if_neg (by omega)]

/-- A result that shows is made of the draws of the plan's dice. -/
theorem makes_of_shown {p : Plan (String × Bool)} {limit : Nat} {s : σ} {result : CommandResult}
    (h : (p.shown limit s).1 = .ok (some result)) :
    p.Makes result.draws (result.text, result.secret) ∧
      result.draws = DieSource.draws p.dice s := by
  cases p with
  | pass => cases h
  | refuse fault => cases h
  | throwing dice account =>
    rcases Nat.lt_or_ge limit dice.length with hroom | hroom
    · rw [shown_of_lt hroom] at h
      cases h
    · rw [shown_of_le hroom] at h
      cases hfaces : account (DieSource.faces dice s) with
      | error fault =>
        rw [hfaces] at h
        cases h
      | ok found =>
        rw [hfaces] at h
        cases h
        exact ⟨.throwing (DieSource.map_sides_draws dice s) hfaces, rfl⟩

end Plan

namespace GameSystem

/-- Of the roller, only its limit and its source have a part in what shows. -/
theorem shown_carryOut (p : Plan (String × Bool)) (r : Roller σ) :
    shown (carryOut p r) = p.shown r.limit r.source := by
  cases p with
  | pass => rfl
  | refuse fault => rfl
  | throwing dice account =>
    rcases Nat.lt_or_ge r.limit dice.length with hroom | hroom
    · have hroom' : r.cleared.room < dice.length := hroom
      rw [Plan.shown_of_lt hroom, carryOut, Plan.result_of_lt hroom']
      rfl
    · have hroom' : dice.length ≤ r.cleared.room := hroom
      rw [Plan.shown_of_le hroom, carryOut, Plan.result_of_le hroom', Roller.source_cleared]
      cases account (DieSource.faces dice r.source) with
      | ok found => simp [shown, answerOf, rollerLeft, Except.map]
      | error fault => rfl

/-- What shows of a command behind the gate. -/
theorem shown_handle (sys : GameSystem) (command : String) (r : Roller σ) :
    shown ((sys.handle command).run r) = (sys.plan command).shown r.limit r.source := by
  have houtcome : withoutLog ((sys.handle command).run r) = _ := sys.outcome_handle command r
  rw [← shown_withoutLog, houtcome, shown_withoutLog, shown_carryOut]

/-- What shows of a command: its plan, if the gate lets it through. -/
theorem shown_eval (sys : GameSystem) (command : String) (r : Roller σ) :
    shown ((sys.eval command).run r) =
      if sys.passes command then (sys.plan (Text.trim command)).shown r.limit r.source
      else (.ok none, r.source) := by
  have houtcome : withoutLog ((sys.eval command).run r) = _ := sys.outcome_eval command r
  rw [← shown_withoutLog, houtcome, passes]
  split
  · rw [shown_withoutLog, shown_carryOut]
  · rfl

/-- The next command starts where the source has been left. -/
theorem source_step (sys : GameSystem) (r : Roller σ) (command : String) :
    (sys.step r command).source = (shown ((sys.eval command).run r)).2 := by
  rw [step, snd_shown]

/-- Two rollers that stand at the same place of the source, with the same limit, show the same. -/
theorem shown_eval_congr (sys : GameSystem) (command : String) {r t : Roller σ}
    (hlimit : r.limit = t.limit) (hsource : r.source = t.source) :
    shown ((sys.eval command).run r) = shown ((sys.eval command).run t) := by
  rw [shown_eval, shown_eval, hlimit, hsource]

end GameSystem

end

/-! ## Numbers are read before dice are thrown -/

namespace Plan

section
variable {α β : Type}

/-- A number that a plan refuses is refused before any die is thrown; no account refuses one. -/
inductive NumbersFirst : Plan α → Prop
  | pass : NumbersFirst .pass
  | refuse (fault : Fault) : NumbersFirst (.refuse fault)
  | throwing {dice : List Nat} {account : List Nat → Except Fault α}
      (h : ∀ faces digits, account faces ≠ .error (.numberTooLarge digits)) :
      NumbersFirst (.throwing dice account)

theorem NumbersFirst.map {p : Plan α} (hp : p.NumbersFirst) (f : α → β) :
    (p.map f).NumbersFirst := by
  cases hp with
  | pass => exact .pass
  | refuse fault => exact .refuse fault
  | @throwing dice account haccount =>
    apply NumbersFirst.throwing
    intro faces digits h
    cases hfaces : account faces with
    | ok a => simp [hfaces, Except.map] at h
    | error fault =>
      simp only [hfaces, Except.map, Except.error.injEq] at h
      exact haccount faces digits (by rw [hfaces, h])

theorem NumbersFirst.orElse {p q : Plan α} (hp : p.NumbersFirst) (hq : q.NumbersFirst) :
    (p.orElse q).NumbersFirst := by
  cases hp with
  | pass => exact hq
  | refuse fault => exact .refuse fault
  | throwing h => exact .throwing h

end

end Plan

/-- The only fault of a fallback is a sign that is no comparison. -/
theorem BRoll.withFallback_ne_numberTooLarge (r : BRoll) (fallback : Option Fallback)
    (digits : Nat) : r.withFallback fallback ≠ .error (.numberTooLarge digits) := by
  intro h
  unfold withFallback at h
  split at h
  · unfold Fallback.comparison at h
    split at h <;> cases h
  · cases h

/-- The only fault of a report is a target that cannot be written. -/
theorem BRoll.report_ne_numberTooLarge (r : BRoll) (rolled : List (List Nat)) (digits : Nat) :
    r.report rolled ≠ .error (.numberTooLarge digits) := by
  by_cases hwritable : r.Writable
  · rw [report_of_writable hwritable]
    exact nofun
  · rw [report_of_not_writable hwritable]
    exact nofun

theorem BRoll.plan_numbersFirst (command : String) (fallback : Option Fallback) :
    (plan command fallback).NumbersFirst := by
  unfold plan
  cases read command.toList with
  | error fault => exact .refuse fault
  | ok reading =>
    cases reading with
    | unrecognized => exact .pass
    | emptyGroup g => exact .pass
    | roll r =>
      -- Behind the dice only the fallback is looked at.
      apply Plan.NumbersFirst.throwing
      intro faces digits h
      cases hjudged : r.withFallback fallback with
      | ok judged =>
        simp only [account, hjudged, Except.bind] at h
        exact judged.report_ne_numberTooLarge _ digits h
      | error fault =>
        simp only [account, hjudged, Except.bind, Except.error.injEq] at h
        exact r.withFallback_ne_numberTooLarge fallback digits (by rw [hjudged, h])

theorem DiceTable.plan_numbersFirst (t : DiceTable) : t.plan.NumbersFirst := by
  unfold plan
  split
  · exact .refuse _
  · apply Plan.NumbersFirst.throwing
    intro faces digits h
    simp only [entryFor] at h
    split at h <;> cases h

theorem Check.plan_numbersFirst (c : Check) : c.plan.NumbersFirst := by
  unfold plan
  split
  · exact .refuse _
  · rename_i command _
    exact ((BRoll.plan_numbersFirst command none).map c.annotate).orElse (.refuse _)

theorem diePlan_numbersFirst (label : String) (sides : Int) :
    (diePlan label sides).NumbersFirst := by
  unfold diePlan
  split
  · exact .refuse _
  · apply Plan.NumbersFirst.throwing
    intro faces digits h
    -- The face may be too long to be written, which is another fault.
    by_cases hwritable : Writable (faces.headD 0 : Nat)
    · rw [writeNumber_of_writable hwritable] at h
      cases h
    · rw [writeNumber_of_not_writable hwritable] at h
      cases h

theorem SpecialCommand.plan_numbersFirst (special : SpecialCommand) :
    special.plan.NumbersFirst := by
  cases special with
  | table t => exact t.plan_numbersFirst
  | check c => exact c.plan_numbersFirst
  | die label sides => exact diePlan_numbersFirst label sides

namespace GameSystem

theorem answerPlan_numbersFirst (sys : GameSystem) (command : String) :
    (sys.answerPlan command).NumbersFirst := by
  apply Plan.NumbersFirst.orElse
  · unfold specialPlan
    split
    · exact .refuse _
    · exact .pass
    · exact SpecialCommand.plan_numbersFirst _
  · exact (BRoll.plan_numbersFirst command sys.fallback?).map RollReport.text

theorem plan_numbersFirst (sys : GameSystem) (command : String) :
    (sys.plan command).NumbersFirst := by
  unfold plan
  split
  · exact .refuse _
  · rename_i expanded _
    apply Plan.NumbersFirst.orElse
    · exact (sys.answerPlan_numbersFirst expanded).map _
    · apply Plan.NumbersFirst.map
      unfold secretPlan
      split
      · exact sys.answerPlan_numbersFirst _
      · exact .pass

end GameSystem

/-! ## Unplayed commands -/

/-- The answer to a command that is not played: there is none, or a number is too large. -/
inductive Unplayed : Except Fault (Option CommandResult) → Prop
  | unanswered : Unplayed (.ok none)
  | numberTooLarge (digits : Nat) : Unplayed (.error (.numberTooLarge digits))

instance : DecidablePred Unplayed := fun answer =>
  match answer with
  | .ok none => .isTrue .unanswered
  | .error (.numberTooLarge digits) => .isTrue (.numberTooLarge digits)
  | .ok (some _) | .error .unwritableNumber | .error (.drawLimit _) | .error (.dieWithoutSides _)
  | .error (.unknownComparison _) | .error (.unknownDifficulty _) | .error (.missingEntry _ _)
  | .error (.unrolledCheck _) => .isFalse nofun

section
variable {σ : Type} [DieSource σ]

/-- An unplayed plan draws nothing. -/
theorem Plan.snd_shown_of_unplayed {p : Plan (String × Bool)} (hp : p.NumbersFirst) {limit : Nat}
    {s : σ} (h : Unplayed (p.shown limit s).1) : (p.shown limit s).2 = s := by
  cases hp with
  | pass => rfl
  | refuse fault => rfl
  | @throwing dice account haccount =>
    -- Thrown dice end in a result, in a fault of their account, or at the limit.
    exfalso
    rcases Nat.lt_or_ge limit dice.length with hroom | hroom
    · rw [shown_of_lt hroom] at h
      cases h
    · rw [shown_of_le hroom] at h
      cases hfaces : account (DieSource.faces dice s) with
      | ok found =>
        rw [hfaces] at h
        cases h
      | error fault =>
        rw [hfaces] at h
        cases h with
        | numberTooLarge digits => exact haccount _ digits hfaces

namespace GameSystem

/-- An unplayed command leaves the source where it was. -/
theorem source_step_of_unplayed {sys : GameSystem} {r : Roller σ} {command : String}
    (h : Unplayed (answerOf ((sys.eval command).run r))) :
    (sys.step r command).source = r.source := by
  rw [← fst_shown, shown_eval] at h
  rw [source_step, shown_eval]
  split at h
  · rename_i hgate
    rw [if_pos hgate]
    exact Plan.snd_shown_of_unplayed (sys.plan_numbersFirst _) h
  · rename_i hgate
    rw [if_neg hgate]

/-! ## Answers of a session -/

/-- The answers to the commands of a session, in their order. -/
def answers (sys : GameSystem) :
    Roller σ → List String → List (Except Fault (Option CommandResult))
  | _, [] => []
  | r, command :: history =>
    answerOf ((sys.eval command).run r) :: answers sys (sys.step r command) history

/-- The answers depend on where the session starts in the source, and on the limit. -/
theorem answers_congr (sys : GameSystem) {r t : Roller σ} (hlimit : r.limit = t.limit)
    (hsource : r.source = t.source) (history : List String) :
    sys.answers r history = sys.answers t history := by
  induction history generalizing r t with
  | nil => rfl
  | cons command history ih =>
    have hshown := sys.shown_eval_congr command hlimit hsource
    have hnext : (sys.step r command).source = (sys.step t command).source := by
      rw [source_step, source_step, hshown]
    rw [answers, answers, ← fst_shown, ← fst_shown, hshown,
      ih (by rw [limit_step, limit_step, hlimit]) hnext]

end GameSystem

end

/-- The elements of a list at the places that are kept. -/
def kept {α : Type} : (keep : Nat → Bool) → List α → List α
  | _, [] => []
  | keep, a :: l =>
    if keep 0 then a :: kept (fun i => keep (i + 1)) l else kept (fun i => keep (i + 1)) l

namespace GameSystem

variable {σ : Type} [DieSource σ]

/-- Commands that are not played cannot influence the others. From a session, any of the commands
may be left out that have no answer or state a number too large: the answers to the commands that
are kept stay the same, with their texts, their flags, their draws and their faults. -/
theorem answers_kept (sys : GameSystem) (r : Roller σ) (history : List String) (keep : Nat → Bool)
    (h : ∀ i, (hi : i < (sys.answers r history).length) →
      keep i = false → Unplayed (sys.answers r history)[i]) :
    sys.answers r (kept keep history) = kept keep (sys.answers r history) := by
  induction history generalizing r keep with
  | nil => rfl
  | cons command history ih =>
    simp only [answers] at h
    have hrest : sys.answers (sys.step r command) (kept (fun i => keep (i + 1)) history) =
        kept (fun i => keep (i + 1)) (sys.answers (sys.step r command) history) := by
      apply ih
      intro i hi hkeep
      have hunplayed := h (i + 1) (Nat.succ_lt_succ hi) hkeep
      rwa [List.getElem_cons_succ] at hunplayed
    cases hfirst : keep 0 with
    | true => simp only [kept, answers, hfirst, if_true, hrest]
    | false =>
      -- Left out or not, the first command hands the same source on.
      have hunplayed := h 0 (Nat.succ_pos _) hfirst
      rw [List.getElem_cons_zero] at hunplayed
      have hsame := source_step_of_unplayed hunplayed
      simp only [kept, answers, hfirst, Bool.false_eq_true, if_false]
      rw [← hrest]
      exact sys.answers_congr (sys.limit_step r command).symm hsame.symm _

/-- A session with a roll of no dice, a number of twenty digits and a greeting, all of them left
out: the commands around them draw the same faces. -/
theorem answers_kept_luck :
    let sys := ofWords "Luck" ["LUCK"] (some ">=") (some 4) [("LUCK", 20)]
    let r : Roller Replay := { source := { faces := #[4, 2, 5] }, limit := 3 }
    let history := ["LUCK", "0B6", "99999999999999999999B6", "2B6", "hello", "9B6"]
    let keep := fun i => i ∉ [1, 2, 4]
    sys.answers r ["LUCK", "2B6", "9B6"] = kept keep (sys.answers r history) := by
  intro sys r history keep
  have hkept : kept keep history = ["LUCK", "2B6", "9B6"] := by decide
  rw [← hkept]
  exact answers_kept sys r history keep (by decide +kernel)

end GameSystem

end ChatDice
