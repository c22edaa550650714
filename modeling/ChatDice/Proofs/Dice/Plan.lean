import ChatDice.Dice.BRoll.Rolling
import ChatDice.Proofs.Dice.Draws
import ChatDice.Proofs.Dice.NormalForm

/-!
# ChatDice.Proofs.Dice.Plan — commands as plans

What a command asks for is settled before the first die is thrown: it has no answer, it is refused,
or certain dice are thrown in a certain order and something is made of their faces. A `Plan` says
which. Plans know nothing of rollers, sources or records; `Plan.perform` carries one out.

* `Plan.outcome_perform` — what carrying out a plan comes to, as a function of the roller;
* `BRoll.alike_eval` — evaluating a B roll is carrying out its plan.
-/

namespace ChatDice

/-! ## Plans -/

/-- What is to be done for a command, and what is made of the faces. -/
inductive Plan (α : Type) where
  /-- There is no answer. -/
  | pass
  /-- A fault ends the evaluation before any die is thrown. -/
  | refuse (fault : Fault)
  /-- Dice with these numbers of sides are thrown. -/
  | throwing (dice : List Nat) (account : List Nat → Except Fault α)

namespace Plan

section
variable {α β : Type}

/-- The plan with something else made of its answer. -/
def map (f : α → β) : Plan α → Plan β
  | pass => pass
  | refuse fault => refuse fault
  | throwing dice account => throwing dice fun faces => (account faces).map f

/-- The plan, or another one where it has no answer. -/
def orElse : Plan α → Plan α → Plan α
  | pass, other => other
  | p, _ => p

/-- The dice that a plan throws. -/
def dice : Plan α → List Nat
  | throwing dice _ => dice
  | _ => []

/-- Every die that the plan throws has a side to show. -/
def Throwable (p : Plan α) : Prop := ∀ n ∈ p.dice, 1 ≤ n

@[simp] theorem map_pass (f : α → β) : (pass : Plan α).map f = pass := rfl

@[simp] theorem map_refuse (f : α → β) (fault : Fault) :
    (refuse fault : Plan α).map f = refuse fault := rfl

@[simp] theorem dice_map (f : α → β) (p : Plan α) : (p.map f).dice = p.dice := by
  cases p <;> rfl

@[simp] theorem pass_orElse (p : Plan α) : (pass : Plan α).orElse p = p := rfl

theorem throwable_pass : (pass : Plan α).Throwable := by
  simp [Throwable, dice]

theorem throwable_refuse (fault : Fault) : (refuse fault : Plan α).Throwable := by
  simp [Throwable, dice]

theorem Throwable.map {p : Plan α} (hp : p.Throwable) (f : α → β) : (p.map f).Throwable := by
  intro n hn
  exact hp n (by simpa using hn)

theorem Throwable.orElse {p q : Plan α} (hp : p.Throwable) (hq : q.Throwable) :
    (p.orElse q).Throwable := by
  cases p with
  | pass => exact hq
  | refuse fault => exact hp
  | throwing dice account => exact hp

/-- The plan throws the dice of these draws and makes this of their faces. -/
inductive Makes : Plan α → List Draw → α → Prop
  | throwing {dice : List Nat} {account : List Nat → Except Fault α} {draws : List Draw} {a : α}
      (hdice : draws.map Draw.sides = dice) (haccount : account (draws.map Draw.face) = .ok a) :
      Makes (throwing dice account) draws a

/-- What is made by a plan that changes the answers of another is a changed answer. -/
theorem Makes.of_map {p : Plan α} {f : α → β} {draws : List Draw} {b : β}
    (h : (p.map f).Makes draws b) : ∃ a, p.Makes draws a ∧ f a = b := by
  cases p with
  | pass => cases h
  | refuse fault => cases h
  | throwing dice account =>
    cases h with
    | throwing hdice hmapped =>
      cases haccount : account (draws.map Draw.face) with
      | error fault => simp [haccount, Except.map] at hmapped
      | ok a =>
        simp only [haccount, Except.map, Except.ok.injEq] at hmapped
        exact ⟨a, .throwing hdice haccount, hmapped⟩

/-- A fault in the place of an answer makes nothing. -/
theorem Makes.of_orElse_refuse {p : Plan α} {fault : Fault} {draws : List Draw} {a : α}
    (h : (p.orElse (.refuse fault)).Makes draws a) : p.Makes draws a := by
  cases p with
  | pass => cases h
  | refuse fault => cases h
  | throwing dice account => exact h

end

section
variable {σ α β : Type} [DieSource σ]

/-- Carries a plan out. -/
def perform : Plan α → Rolling σ (Option α)
  | pass => pure none
  | refuse fault => throw fault
  | throwing dice account => do
    let faces ← rollEach dice
    return some (← Rolling.ofExcept (account faces))

theorem alike_perform (p : Plan α) :
    Rolling.Alike (p.perform : Rolling σ (Option α)) p.perform := by
  cases p with
  | pass => exact Rolling.alike_pure none
  | refuse fault => exact Rolling.alike_throw fault
  | throwing dice account =>
    exact (alike_rollEach dice).bind fun faces =>
      (Rolling.alike_ofExcept _).bind fun a => Rolling.alike_pure (some a)

theorem perform_map (p : Plan α) (f : α → β) :
    ((p.map f).perform : Rolling σ (Option β)) = Option.map f <$> p.perform := by
  cases p with
  | pass => rfl
  | refuse fault => rfl
  | throwing dice account =>
    simp only [map, perform, map_bind]
    congr 1
    funext faces
    cases account faces <;> rfl

theorem perform_orElse (p q : Plan α) :
    ((p.orElse q).perform : Rolling σ (Option α)) =
      p.perform >>= fun
        | some a => pure (some a)
        | none => q.perform := by
  cases p with
  | pass => rfl
  | refuse fault => rfl
  | throwing dice account => simp [orElse, perform]

/-- What a plan comes to with a roller: all of its dice are drawn, or as many as there is room
for. -/
def result (p : Plan α) (r : Roller σ) : EStateM.Result Fault (Roller σ) (Option α) :=
  match p with
  | pass => .ok none r
  | refuse fault => .error fault r
  | throwing dice account =>
    if dice.length ≤ r.room then
      match account (DieSource.faces dice r.source) with
      | .ok a => .ok (some a) (r.drawn dice)
      | .error fault => .error fault (r.drawn dice)
    else .error (.drawLimit r.limit) (r.drawn (dice.take r.room))

theorem result_of_le {dice : List Nat} {account : List Nat → Except Fault α} {r : Roller σ}
    (h : dice.length ≤ r.room) :
    (throwing dice account).result r =
      match account (DieSource.faces dice r.source) with
      | .ok a => .ok (some a) (r.drawn dice)
      | .error fault => .error fault (r.drawn dice) := by
  rw [result, if_pos h]

theorem result_of_lt {dice : List Nat} {account : List Nat → Except Fault α} {r : Roller σ}
    (h : r.room < dice.length) :
    (throwing dice account).result r =
      .error (.drawLimit r.limit) (r.drawn (dice.take r.room)) := by
  rw [result, if_neg (by omega)]

/-- An answer is made of draws. -/
theorem exists_makes_of_result {p : Plan α} {r s : Roller σ} {a : α}
    (h : p.result r = .ok (some a) s) : ∃ draws, p.Makes draws a := by
  cases p with
  | pass => cases h
  | refuse fault => cases h
  | throwing dice account =>
    rcases Nat.lt_or_ge r.room dice.length with hroom | hroom
    · rw [result_of_lt hroom] at h
      cases h
    · rw [result_of_le hroom] at h
      cases haccount : account (DieSource.faces dice r.source) with
      | error fault => simp [haccount] at h
      | ok b =>
        simp only [haccount, EStateM.Result.ok.injEq, Option.some.injEq] at h
        obtain ⟨rfl, -⟩ := h
        exact ⟨DieSource.draws dice r.source, .throwing (DieSource.map_sides_draws dice r.source)
          haccount⟩

/-- Log records have no part in what a plan comes to. -/
theorem result_unlogged (p : Plan α) (r : Roller σ) :
    p.result r.unlogged = withoutLog (p.result r) := by
  cases p with
  | pass => rfl
  | refuse fault => rfl
  | throwing dice account =>
    rcases Nat.lt_or_ge r.room dice.length with hroom | hroom
    · rw [result_of_lt hroom, result_of_lt (r := r.unlogged) hroom]
      rfl
    · rw [result_of_le hroom, result_of_le (r := r.unlogged) hroom]
      simp only [Roller.source_unlogged]
      cases account (DieSource.faces dice r.source) <;> rfl

theorem outcome_perform {p : Plan α} (hp : p.Throwable) (r : Roller σ) :
    Rolling.outcome p.perform r = withoutLog (p.result r) := by
  cases p with
  | pass => rfl
  | refuse fault => rfl
  | throwing dice account =>
    have hdice : ∀ n ∈ dice, 1 ≤ n := hp
    rw [perform, Rolling.outcome_bind _ fun faces =>
      (Rolling.alike_ofExcept _).bind fun a => Rolling.alike_pure (some a), outcome_rollEach hdice]
    rcases Nat.lt_or_ge r.room dice.length with hroom | hroom
    · rw [if_neg (by omega), result_of_lt hroom]
      rfl
    · rw [if_pos hroom, result_of_le hroom]
      cases h : account (DieSource.faces dice r.source) with
      | ok a =>
        simp only [h]
        rfl
      | error fault =>
        simp only [h]
        rfl

end

end Plan

/-! ## The plan of a B roll -/

/-- The dice of a group. -/
def DiceGroup.dice (g : DiceGroup) : List Nat :=
  List.replicate g.times g.sides

namespace BRoll

/-- The dice of a roll, group by group. -/
def dice (r : BRoll) : List Nat :=
  r.groups.flatMap DiceGroup.dice

/-- Faces dealt out to the groups that rolled them. -/
def deal : List DiceGroup → List Nat → List (List Nat)
  | [], _ => []
  | g :: groups, faces => faces.take g.times :: deal groups (faces.drop g.times)

/-- The account of a roll whose dice showed these faces. -/
def account (r : BRoll) (fallback : Option Fallback) (faces : List Nat) :
    Except Fault RollReport :=
  (r.withFallback fallback).bind fun judged => judged.report (deal r.groups faces)

/-- What a command asks for as a B roll. -/
def plan (command : String) (fallback : Option Fallback) : Plan RollReport :=
  match read command.toList with
  | .error fault => .refuse fault
  | .ok (.roll r) => .throwing r.dice (r.account fallback)
  | .ok _ => .pass

/-- What is not written like a roll asks for nothing. -/
theorem plan_of_no_form {command : String} (h : ∀ f : BRollForm, f.text ≠ command.toList)
    (fallback : Option Fallback) : plan command fallback = .pass := by
  have hread : BRollText.read? command.toList = none := by
    cases hparts : BRollText.read? command.toList with
    | none => rfl
    | some parts =>
      obtain ⟨f, hf, -⟩ := BRollText.exists_form_of_read? hparts
      exact absurd hf (h f)
  rw [plan, read, hread]

/-- Every die of a legible roll has a side to show. -/
theorem one_le_of_mem_dice {r : BRoll} (h : r.Legible) : ∀ n ∈ r.dice, 1 ≤ n := by
  intro n hn
  obtain ⟨g, hg, hn⟩ := List.mem_flatMap.mp hn
  rw [List.eq_of_mem_replicate hn]
  exact (h.groups g hg).sides_pos

theorem plan_throwable (command : String) (fallback : Option Fallback) :
    (plan command fallback).Throwable := by
  unfold plan
  cases h : read command.toList with
  | error fault => exact Plan.throwable_refuse fault
  | ok reading =>
    cases reading with
    | unrecognized => exact Plan.throwable_pass
    | emptyGroup g => exact Plan.throwable_pass
    | roll r => exact one_le_of_mem_dice (legible_of_read h)

/-- What the plan of a command makes is the report of its roll, with the fallback in its place. -/
theorem exists_of_makes {command : String} {fallback : Option Fallback} {draws : List Draw}
    {report : RollReport} (h : (plan command fallback).Makes draws report) :
    ∃ r judged : BRoll, read command.toList = .ok (.roll r) ∧
      r.withFallback fallback = .ok judged ∧ draws.map Draw.sides = r.dice ∧ judged.Writable ∧
      report = judged.writtenReport (deal r.groups (draws.map Draw.face)) := by
  unfold plan at h
  cases hread : read command.toList with
  | error fault =>
    rw [hread] at h
    cases h
  | ok reading =>
    rw [hread] at h
    cases reading with
    | unrecognized => cases h
    | emptyGroup g => cases h
    | roll r =>
      cases h with
      | throwing hdice haccount =>
        cases hjudged : r.withFallback fallback with
        | error fault => simp [account, hjudged, Except.bind] at haccount
        | ok judged =>
          simp only [account, hjudged, Except.bind] at haccount
          exact ⟨r, judged, rfl, hjudged, hdice, report_eq_ok_iff.mp haccount⟩

section
variable {σ : Type} [DieSource σ]

/-- Groups are thrown die by die, and the faces are dealt out to them. -/
theorem rollGroups_eq (groups : List DiceGroup) :
    (rollGroups groups : Rolling σ (List (List Nat))) = do
      let faces ← rollEach (groups.flatMap DiceGroup.dice)
      return deal groups faces := by
  induction groups with
  | nil => simp [rollGroups, rollEach, deal]
  | cons g groups ih =>
    rw [rollGroups, ih, rollDice_eq_rollEach, List.flatMap_cons, rollEach_append]
    simp only [bind_assoc, pure_bind]
    -- `deal` gives the first group its faces back, because there are as many as it has dice.
    apply rollEach_bind_congr
    intro faces hfaces
    have htimes : faces.length = g.times := by simpa [DiceGroup.dice] using hfaces
    simp [deal, ← htimes]

/-- Evaluating a command as a B roll is carrying out what it asks for. -/
theorem alike_eval (command : String) (fallback : Option Fallback) :
    Rolling.Alike (eval command fallback : Rolling σ (Option RollReport))
      (plan command fallback).perform := by
  unfold eval plan
  cases h : read command.toList with
  | error fault => exact Rolling.alike_throw fault
  | ok reading =>
    simp only [Rolling.ofExcept, pure_bind]
    cases reading with
    | unrecognized => exact Rolling.alike_pure none
    | emptyGroup group => exact (Rolling.alike_pure none).note_bind _ _ _
    | roll r =>
      -- The fallback is looked at behind the dice, in the evaluation as in the plan.
      simp only [throwDice, rollGroups_eq, Plan.perform, account, bind_assoc, pure_bind]
      apply (alike_rollEach _).bind
      intro faces
      cases r.withFallback fallback with
      | ok judged => exact (Rolling.alike_ofExcept _).bind fun report => Rolling.alike_pure _
      | error fault => exact Rolling.alike_throw fault

end

end BRoll

end ChatDice
