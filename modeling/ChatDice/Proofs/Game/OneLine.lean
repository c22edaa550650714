import ChatDice.Proofs.Game.Gate
import ChatDice.Proofs.Text.Lines

/-!
# ChatDice.Proofs.Game.OneLine — answers of one line

Players read one answer per line. The text of an answer is made of numbers, signs, the words of the
program and the texts that a game brings along: the entries of its tables and the labels of its
dice. Nothing in it is taken from the command as it was typed. So the answers of a game are of one
line if the texts that it brings along are (`GameSystem.oneLine_of_answerOf`), and those of the
Ninja Slayer game are.

The proof goes through plans: `Plan.MakesOnly P` says that whatever a plan makes of its draws is
`P`.
-/

namespace ChatDice

open Text (OneLine oneLine_append oneLine_intercalate oneLine_nat oneLine_int)

/-! ## What plans make -/

namespace Plan

variable {α β : Type} {P : α → Prop} {Q : β → Prop}

/-- Whatever the plan makes of draws is `P`. -/
def MakesOnly (P : α → Prop) (p : Plan α) : Prop :=
  ∀ draws a, p.Makes draws a → P a

theorem makesOnly_pass : (pass : Plan α).MakesOnly P := by
  intro draws a h
  cases h

theorem makesOnly_refuse (fault : Fault) : (refuse fault : Plan α).MakesOnly P := by
  intro draws a h
  cases h

theorem makesOnly_throwing {dice : List Nat} {account : List Nat → Except Fault α}
    (h : ∀ faces a, account faces = .ok a → P a) : (throwing dice account).MakesOnly P := by
  intro draws a hmakes
  cases hmakes with
  | throwing _ haccount => exact h _ a haccount

theorem MakesOnly.map {p : Plan α} (hp : p.MakesOnly P) {f : α → β} (h : ∀ a, P a → Q (f a)) :
    (p.map f).MakesOnly Q := by
  intro draws b hmakes
  obtain ⟨a, ha, rfl⟩ := hmakes.of_map
  exact h a (hp draws a ha)

theorem MakesOnly.orElse {p q : Plan α} (hp : p.MakesOnly P) (hq : q.MakesOnly P) :
    (p.orElse q).MakesOnly P := by
  cases p with
  | pass => exact hq
  | refuse fault => exact hp
  | throwing dice account => exact hp

end Plan

/-! ## Texts of rolls, checks and tables -/

theorem oneLine_joinStages {stages : List String} (h : ∀ t ∈ stages, OneLine t) :
    OneLine (joinStages stages) :=
  oneLine_intercalate (by decide) h

theorem oneLine_joinStages_pair {s t : String} (hs : OneLine s) (ht : OneLine t) :
    OneLine (joinStages [s, t]) :=
  oneLine_joinStages (List.forall_mem_cons.mpr ⟨hs, List.forall_mem_singleton.mpr ht⟩)

namespace BRoll

theorem oneLine_written (r : BRoll) : OneLine r.written := by
  have hgroups : OneLine ("+".intercalate (r.groups.map DiceGroup.render)) := by
    apply oneLine_intercalate (by decide)
    intro t ht
    obtain ⟨g, -, rfl⟩ := List.mem_map.mp ht
    rw [DiceGroup.render, oneLine_append, oneLine_append]
    exact ⟨⟨oneLine_nat g.times, by decide⟩, oneLine_nat g.sides⟩
  have hcomparison : OneLine ((r.comparison.map Comparison.written).getD "") := by
    cases r.comparison with
    | none => decide
    | some c =>
      have hsign : OneLine c.op.sign := by
        cases c.op <;> decide
      rw [Option.map_some, Option.getD_some, Comparison.written, oneLine_append]
      exact ⟨hsign, oneLine_int c.target⟩
  rw [written, oneLine_append]
  exact ⟨hgroups, hcomparison⟩

theorem oneLine_renderFaces (rolled : List (List Nat)) : OneLine (renderFaces rolled) := by
  apply oneLine_intercalate (by decide)
  intro group hgroup
  obtain ⟨faces, -, rfl⟩ := List.mem_map.mp hgroup
  apply oneLine_intercalate (by decide)
  intro face hface
  obtain ⟨n, -, rfl⟩ := List.mem_map.mp hface
  exact oneLine_nat n

theorem oneLine_writtenReport (r : BRoll) (rolled : List (List Nat)) :
    OneLine (r.writtenReport rolled).text := by
  have hwritten : OneLine ("(" ++ r.written ++ ")") := by
    rw [oneLine_append, oneLine_append]
    exact ⟨⟨by decide, r.oneLine_written⟩, by decide⟩
  have hfaces := oneLine_renderFaces rolled
  have hsuccesses : ∀ n : Nat, OneLine s!"Successes: {n}" := by
    intro n
    have htext : s!"Successes: {n}" = "Successes: " ++ toString n := rfl
    rw [htext, oneLine_append]
    exact ⟨by decide, oneLine_nat n⟩
  unfold writtenReport reportAs
  cases r.comparison with
  | none =>
    apply oneLine_joinStages
    simp only [List.forall_mem_cons, List.not_mem_nil]
    exact ⟨hwritten, hfaces, by simp⟩
  | some c =>
    apply oneLine_joinStages
    simp only [List.cons_append, List.nil_append, List.forall_mem_cons, List.not_mem_nil]
    exact ⟨hwritten, hfaces, hsuccesses _, by simp⟩

theorem plan_makesOnly (command : String) (fallback : Option Fallback) :
    (plan command fallback).MakesOnly fun report => OneLine report.text := by
  intro draws report h
  obtain ⟨r, judged, -, -, -, -, rfl⟩ := exists_of_makes h
  exact judged.oneLine_writtenReport _

end BRoll

namespace Check

theorem oneLine_annotate (c : Check) {report : RollReport} (h : OneLine report.text) :
    OneLine (c.annotate report) := by
  cases hkind : c.kind with
  | evasion target =>
    simp only [annotate, hkind]
    split
    · exact oneLine_joinStages_pair h (by decide)
    · exact h
  | meleeAttack =>
    simp only [annotate, hkind]
    split
    · exact oneLine_joinStages_pair h (by decide)
    · exact h
  | electronicWarfare =>
    simp only [annotate, hkind]
    split
    · exact h
    · refine oneLine_joinStages_pair ?_ (oneLine_nat _)
      rw [oneLine_append, oneLine_append]
      exact ⟨⟨h, by decide⟩, oneLine_nat _⟩

theorem plan_makesOnly (c : Check) : c.plan.MakesOnly OneLine := by
  intro draws text h
  obtain ⟨command, report, -, hreport, rfl⟩ := exists_of_makes h
  exact c.oneLine_annotate (BRoll.plan_makesOnly command none _ _ hreport)

end Check

/-- The name and the entries of the table are of one line each. -/
def DiceTable.OneLine (t : DiceTable) : Prop :=
  Text.OneLine t.name ∧ ∀ body ∈ t.entries, Text.OneLine body

theorem DiceTable.plan_makesOnly {t : DiceTable} (h : t.OneLine) :
    t.plan.MakesOnly Text.OneLine := by
  unfold plan
  split
  · exact Plan.makesOnly_refuse _
  · apply Plan.makesOnly_throwing
    intro faces text hentry
    simp only [entryFor] at hentry
    split at hentry
    · rename_i body hbody
      rw [Except.ok.injEq] at hentry
      subst hentry
      have hface : Text.OneLine (t.name ++ "(" ++ toString (faces.headD 0 - 1 + 1) ++ ")") := by
        rw [oneLine_append, oneLine_append, oneLine_append]
        exact ⟨⟨⟨h.1, by decide⟩, oneLine_nat _⟩, by decide⟩
      have hentry : Text.OneLine body := h.2 body (Array.mem_of_getElem? hbody)
      exact oneLine_joinStages_pair hface hentry
    · cases hentry

/-! ## Texts of games -/

/-- The texts that a command of a game's own brings along are of one line each. -/
def SpecialCommand.OneLine : SpecialCommand → Prop
  | .table t => t.OneLine
  | .check _ => True
  | .die label _ => Text.OneLine label

theorem SpecialCommand.plan_makesOnly {special : SpecialCommand} (h : special.OneLine) :
    special.plan.MakesOnly Text.OneLine := by
  cases special with
  | table t => exact DiceTable.plan_makesOnly h
  | check c => exact c.plan_makesOnly
  | die label sides =>
    show (diePlan label sides).MakesOnly Text.OneLine
    unfold diePlan
    split
    · exact Plan.makesOnly_refuse _
    · apply Plan.makesOnly_throwing
      intro faces text htext
      have hlabel : Text.OneLine label := h
      cases hface : writeNumber (faces.headD 0 : Nat) with
      | error fault =>
        rw [hface] at htext
        cases htext
      | ok digits =>
        rw [hface] at htext
        obtain ⟨-, rfl⟩ := writeNumber_eq_ok_iff.mp hface
        rw [← Except.ok.inj htext]
        exact oneLine_joinStages_pair hlabel (oneLine_int _)

namespace GameSystem

/-- The texts that the game brings along are of one line each. -/
def SpeaksInLines (sys : GameSystem) : Prop :=
  ∀ command special, (sys.special command).command = .ok (some special) → special.OneLine

variable {sys : GameSystem}

theorem answerPlan_makesOnly (h : sys.SpeaksInLines) (command : String) :
    (sys.answerPlan command).MakesOnly OneLine := by
  apply Plan.MakesOnly.orElse
  · unfold specialPlan
    split
    · exact Plan.makesOnly_refuse _
    · exact Plan.makesOnly_pass
    · rename_i special hspecial
      exact SpecialCommand.plan_makesOnly (h command special hspecial)
  · exact (BRoll.plan_makesOnly command sys.fallback?).map fun _ htext => htext

theorem plan_makesOnly (h : sys.SpeaksInLines) (command : String) :
    (sys.plan command).MakesOnly fun answer => OneLine answer.1 := by
  unfold plan
  split
  · exact Plan.makesOnly_refuse _
  · rename_i expanded _
    apply Plan.MakesOnly.orElse
    · exact (answerPlan_makesOnly h expanded).map fun _ htext => htext
    · have hsecret : (sys.secretPlan expanded).MakesOnly OneLine := by
        unfold secretPlan
        split
        · exact answerPlan_makesOnly h _
        · exact Plan.makesOnly_pass
      exact hsecret.map fun _ htext => htext

/-- If the texts that a game brings along are of one line, so are its answers. -/
theorem oneLine_of_answerOf {σ : Type} [DieSource σ] (h : sys.SpeaksInLines) {command : String}
    {r : Roller σ} {result : CommandResult}
    (hanswer : answerOf ((sys.eval command).run r) = .ok (some result)) : OneLine result.text := by
  rw [← fst_shown, shown_eval] at hanswer
  cases hgate : sys.passes command with
  | false =>
    rw [hgate, if_neg (by decide)] at hanswer
    cases hanswer
  | true =>
    rw [hgate, if_pos rfl] at hanswer
    exact plan_makesOnly h _ _ _ (Plan.makes_of_shown hanswer).1

end GameSystem

namespace NinjaSlayer

theorem oneLine_satsubatsuTable : satsubatsuTable.OneLine := by
  refine ⟨by decide, ?_⟩
  intro body hbody
  simp only [satsubatsuTable, List.mem_toArray, List.mem_cons, List.not_mem_nil, or_false] at hbody
  -- An entry is looked at as the list of its characters.
  rcases hbody with rfl | rfl | rfl | rfl | rfl | rfl <;>
  · apply Text.oneLine_ofList
    decide +kernel

/-- The only texts that the game brings along are those of its table. -/
theorem speaksInLines_system : system.SpeaksInLines := by
  intro command asked hasked
  have hcommand : (special command).command = .ok (some asked) := hasked
  unfold special at hcommand
  dsimp only at hcommand
  split at hcommand
  · rename_i t htable
    have ht : t = satsubatsuTable := by
      have hmem : (command, t) ∈ tables := Text.mem_of_lookup htable
      simp only [tables, List.mem_singleton, Prod.mk.injEq] at hmem
      exact hmem.2
    cases hcommand
    rw [ht]
    exact oneLine_satsubatsuTable
  · split at hcommand <;> cases hcommand
    exact trivial

end NinjaSlayer

end ChatDice
