import ChatDice.Proofs.Dice.Account
import ChatDice.Random.Replay

/-!
# ChatDice.Proofs.Dice.Meaning — what a B roll comes to

A B roll has a meaning that knows nothing of reading and throwing. Its groups stand for the values
of their numerals, whatever zeros and letters they are written with. Each group shows the faces
that the source has for it where the group before left off. A face is a success if it stands in the
relation of the comparison to its target; a comparison that is not stated is the one given with the
command, if both its parts are given. The account is put together of these.

`BRoll.ComesTo` says of a result and the roller behind it that they are what the meaning asks for,
and `BRoll.eval_comesTo` that evaluation comes to it for every roll that the record has room for:
any number of groups, any spelling, and a roller in any state. One thing is not in the meaning. The
account shows the target, so there is none if the target is too long to be written. A command cannot
state such a target, but a comparison that is given with it may have one.
-/

namespace ChatDice

/-! ## Comparisons -/

/-- The relation between a face and a target that makes the face a success. -/
def CompareOp.Relates : CompareOp → Int → Int → Prop
  | .ge, face, target => target ≤ face
  | .le, face, target => face ≤ target
  | .gt, face, target => target < face
  | .lt, face, target => face < target
  | .eq, face, target => face = target
  | .ne, face, target => face ≠ target

instance (op : CompareOp) (face target : Int) : Decidable (op.Relates face target) :=
  match op with
  | .ge => inferInstanceAs (Decidable (target ≤ face))
  | .le => inferInstanceAs (Decidable (face ≤ target))
  | .gt => inferInstanceAs (Decidable (target < face))
  | .lt => inferInstanceAs (Decidable (face < target))
  | .eq => inferInstanceAs (Decidable (face = target))
  | .ne => inferInstanceAs (Decidable (face ≠ target))

namespace Comparison

/-- The faces that are accepted are those in the relation to the target. -/
theorem accepts_iff (c : Comparison) (face : Nat) :
    c.accepts face = true ↔ c.op.Relates face c.target := by
  obtain ⟨op, target⟩ := c
  cases op <;> simp [accepts, CompareOp.holds, CompareOp.Relates]

/-- How many faces are successes; none if nothing is compared. -/
def successes : Option Comparison → List Nat → Nat
  | none, _ => 0
  | some c, faces => faces.countP fun face : Nat => decide (c.op.Relates face c.target)

theorem countP_accepts (c : Comparison) (faces : List Nat) :
    faces.countP c.accepts = successes (some c) faces := by
  apply List.countP_congr
  intro face _
  rw [accepts_iff, decide_eq_true_iff]

end Comparison

/-- A sign is looked up in either spelling. -/
theorem CompareOp.ofSign?_eq_some_iff {op : CompareOp} {sign : String} :
    ofSign? sign = some op ↔ sign.toList ∈ op.spellings := by
  unfold ofSign?
  constructor
  · intro h
    split at h
    · rename_i found hread
      obtain rfl := Option.some.inj h
      obtain ⟨spelling, hmem, hsign⟩ := exists_spelling_of_read? hread
      rwa [hsign, List.append_nil]
    · cases h
  · intro h
    cases op <;> simp only [spellings, List.mem_cons, List.not_mem_nil, or_false] at h
    case ge => rcases h with h | h <;> rw [h] <;> rfl
    case le => rcases h with h | h <;> rw [h] <;> rfl
    case gt => rw [h]; rfl
    case lt => rw [h]; rfl
    case eq => rw [h]; rfl
    case ne => rcases h with h | h <;> rw [h] <;> rfl

namespace Fallback

theorem ofParts?_eq_none_iff {sign : Option String} {target : Option Int} :
    ofParts? sign target = none ↔ sign = none ∨ target = none := by
  cases sign <;> cases target <;> simp [ofParts?]

theorem ofParts?_eq_some_iff {sign : Option String} {target : Option Int} {f : Fallback} :
    ofParts? sign target = some f ↔ sign = some f.sign ∧ target = some f.target := by
  obtain ⟨s, t⟩ := f
  cases sign <;> cases target <;> simp [ofParts?]

end Fallback

/-! ## Faces of groups -/

namespace DieSource

section
variable {σ : Type} [DieSource σ]

/-- The faces of groups thrown one after another, each group where the one before left the
source. -/
def groupFaces : List DiceGroup → σ → List (List Nat)
  | [], _ => []
  | g :: groups, s => faces g.dice s :: groupFaces groups (after g.dice s)

theorem faces_append (first rest : List Nat) (s : σ) :
    faces (first ++ rest) s = faces first s ++ faces rest (after first s) := by
  simp [faces, draws_append]

/-- The groups together show what their dice show. -/
theorem flatten_groupFaces (groups : List DiceGroup) (s : σ) :
    (groupFaces groups s).flatten = faces (groups.flatMap DiceGroup.dice) s := by
  induction groups generalizing s with
  | nil => rfl
  | cons g groups ih => rw [groupFaces, List.flatten_cons, ih, List.flatMap_cons, faces_append]

/-- Dealing the faces out to the groups gives each group its own. -/
theorem deal_faces (groups : List DiceGroup) (s : σ) :
    BRoll.deal groups (faces (groups.flatMap DiceGroup.dice) s) = groupFaces groups s := by
  induction groups generalizing s with
  | nil => rfl
  | cons g groups ih =>
    have hlength : g.times = (faces g.dice s).length := by simp [DiceGroup.dice]
    rw [List.flatMap_cons, faces_append, BRoll.deal, groupFaces, hlength, List.take_left,
      List.drop_left, ih]

theorem groupFaces_concat (groups : List DiceGroup) (g : DiceGroup) (s : σ) :
    groupFaces (groups ++ [g]) s =
      groupFaces groups s ++ [faces g.dice (after (groups.flatMap DiceGroup.dice) s)] := by
  induction groups generalizing s with
  | nil => rfl
  | cons first groups ih =>
    rw [List.cons_append, groupFaces, ih, groupFaces, List.flatMap_cons, after_append,
      List.cons_append]

/-- The faces of the last group are the last ones of all. -/
theorem getLast?_groupFaces {groups : List DiceGroup} {g : DiceGroup}
    (h : groups.getLast? = some g) (s : σ) :
    (groupFaces groups s).getLast? =
      some ((groupFaces groups s).flatten.drop
        ((groupFaces groups s).flatten.length - g.times)) := by
  obtain ⟨front, rfl⟩ := List.getLast?_eq_some_iff.mp h
  rw [groupFaces_concat, List.getLast?_concat, List.flatten_concat, List.length_append,
    length_faces]
  simp [DiceGroup.dice]

/-- Draws are faces beside the sides of their dice. -/
theorem draws_eq_zipWith (dice : List Nat) (s : σ) :
    draws dice s = List.zipWith Draw.mk (faces dice s) dice := by
  induction dice generalizing s with
  | nil => rfl
  | cons n dice ih => rw [draws_cons, faces_cons, List.zipWith_cons_cons, ih]

end

end DieSource

/-! ## What a command stands for -/

/-- A group that can be rolled: neither number is zero, and neither has too many digits. -/
structure GroupForm.Rollable (g : GroupForm) : Prop where
  times_pos : 1 ≤ numeralValue g.times
  sides_pos : 1 ≤ numeralValue g.sides
  times_short : significantCount g.times ≤ maxDigits
  sides_short : significantCount g.sides ≤ maxDigits

instance (g : GroupForm) : Decidable g.Rollable :=
  decidable_of_iff
    (1 ≤ numeralValue g.times ∧ 1 ≤ numeralValue g.sides ∧
      significantCount g.times ≤ maxDigits ∧ significantCount g.sides ≤ maxDigits)
    ⟨fun h => ⟨h.1, h.2.1, h.2.2.1, h.2.2.2⟩,
      fun h => ⟨h.times_pos, h.sides_pos, h.times_short, h.sides_short⟩⟩

/-- The group that is written. -/
def GroupForm.group (g : GroupForm) : DiceGroup :=
  ⟨numeralValue g.times, numeralValue g.sides⟩

/-- The comparison that is written. -/
def ComparisonForm.comparison (c : ComparisonForm) : Comparison :=
  ⟨c.op, numeralValue c.target⟩

namespace BRollForm

/-- The roll that is written. -/
def roll (f : BRollForm) : BRoll :=
  ⟨f.groups.map GroupForm.group, f.comparison.map ComparisonForm.comparison⟩

/-- How many dice a command asks for. -/
def diceCount (f : BRollForm) : Nat :=
  (f.groups.map fun g => numeralValue g.times).sum

/-- A roll can be rolled if its groups can, and its target does not have too many digits. -/
structure Rollable (f : BRollForm) : Prop where
  groups : ∀ g ∈ f.groups, g.Rollable
  target_short : ∀ c ∈ f.comparison, significantCount c.target ≤ maxDigits

instance (f : BRollForm) : Decidable f.Rollable :=
  decidable_of_iff
    ((∀ g ∈ f.groups, g.Rollable) ∧ ∀ c ∈ f.comparison, significantCount c.target ≤ maxDigits)
    ⟨fun h => ⟨h.1, h.2⟩, fun h => ⟨h.groups, h.target_short⟩⟩

/-- The comparison that judges the faces of a command: the one that it states, else the one whose
sign and target are given with it, else none. -/
inductive JudgedBy (f : BRollForm) (sign : Option String) (target : Option Int) :
    Option Comparison → Prop
  | stated {c : ComparisonForm} (hc : f.comparison = some c) :
      JudgedBy f sign target (some c.comparison)
  | fallback {op : CompareOp} {s : String} {t : Int} (hnone : f.comparison = none)
      (hsign : sign = some s) (htarget : target = some t) (hop : s.toList ∈ op.spellings) :
      JudgedBy f sign target (some ⟨op, t⟩)
  | none (hnone : f.comparison = none) (hparts : sign = none ∨ target = none) :
      JudgedBy f sign target none

end BRollForm

theorem readGroups_eq_ok_iff {forms : List GroupForm} {groups : List DiceGroup} :
    readGroups (forms.map GroupForm.parts) = .ok (.ok groups) ↔
      (∀ g ∈ forms, g.Rollable) ∧ groups = forms.map GroupForm.group := by
  induction forms generalizing groups with
  | nil => simp [readGroups, eq_comm]
  | cons g forms ih =>
    rw [List.map_cons, List.forall_mem_cons, List.map_cons]
    constructor
    · intro h
      obtain ⟨times, sides, rest, htimes, hsides, hempty, hrest, rfl⟩ := exists_of_readGroups_cons h
      obtain ⟨hforms, rfl⟩ := ih.mp hrest
      obtain ⟨htimes_short, rfl⟩ := readNumber_eq_ok_iff.mp htimes
      obtain ⟨hsides_short, rfl⟩ := readNumber_eq_ok_iff.mp hsides
      have hg : g.Rollable :=
        { times_pos := Nat.one_le_iff_ne_zero.mpr fun h => hempty (.inl h)
          sides_pos := Nat.one_le_iff_ne_zero.mpr fun h => hempty (.inr h)
          times_short := htimes_short
          sides_short := hsides_short }
      exact ⟨⟨hg, hforms⟩, rfl⟩
    · rintro ⟨⟨hg, hforms⟩, rfl⟩
      have hempty : ¬ (numeralValue g.times = 0 ∨ numeralValue g.sides = 0) := by
        have htimes := hg.times_pos
        have hsides := hg.sides_pos
        omega
      have htimes : readNumber g.parts.times = .ok (numeralValue g.times) :=
        readNumber_of_le hg.times_short
      have hsides : readNumber g.parts.sides = .ok (numeralValue g.sides) :=
        readNumber_of_le hg.sides_short
      rw [readGroups_cons, htimes, hsides]
      simp only
      rw [if_neg hempty, ih.mpr ⟨hforms, rfl⟩]
      rfl

theorem readTarget_eq_ok_iff {form : Option ComparisonForm} {comparison : Option Comparison} :
    readTarget (form.map ComparisonForm.parts) = .ok comparison ↔
      (∀ c ∈ form, significantCount c.target ≤ maxDigits) ∧
        comparison = form.map ComparisonForm.comparison := by
  cases form with
  | none => simp [readTarget, eq_comm]
  | some c =>
    simp only [Option.map_some, ComparisonForm.parts, readTarget, bind, Except.bind]
    cases htarget : readNumber c.target with
    | error fault =>
      have hlong : ¬ significantCount c.target ≤ maxDigits := by
        intro hshort
        rw [readNumber_of_le hshort] at htarget
        cases htarget
      simp [hlong]
    | ok n =>
      obtain ⟨hshort, rfl⟩ := readNumber_eq_ok_iff.mp htarget
      simp [hshort, pure, Except.pure, ComparisonForm.comparison, eq_comm]

namespace BRoll

/-- A command is read as the roll that it stands for if that can be rolled, and as no other. -/
theorem read_text_eq_roll_iff {f : BRollForm} {b : BRoll} :
    read f.text = .ok (.roll b) ↔ f.Rollable ∧ b = f.roll := by
  rw [read_text]
  constructor
  · intro h
    cases hgroups : readGroups (f.groups.map GroupForm.parts) with
    | error fault => simp [hgroups] at h
    | ok read =>
      cases read with
      | error g => simp [hgroups] at h
      | ok groups =>
        cases htarget : readTarget (f.comparison.map ComparisonForm.parts) with
        | error fault => simp [hgroups, htarget, Except.map] at h
        | ok comparison =>
          simp only [hgroups, htarget, Except.map, Except.ok.injEq, Reading.roll.injEq] at h
          obtain ⟨hrollable, rfl⟩ := readGroups_eq_ok_iff.mp hgroups
          obtain ⟨hshort, rfl⟩ := readTarget_eq_ok_iff.mp htarget
          exact ⟨⟨hrollable, hshort⟩, h.symm⟩
  · rintro ⟨hf, rfl⟩
    rw [readGroups_eq_ok_iff.mpr ⟨hf.groups, rfl⟩, readTarget_eq_ok_iff.mpr ⟨hf.target_short, rfl⟩]
    rfl

theorem read_ofList_text {f : BRollForm} (hf : f.Rollable) :
    read (String.ofList f.text).toList = .ok (.roll f.roll) := by
  rw [String.toList_ofList, read_text_eq_roll_iff]
  exact ⟨hf, rfl⟩

/-- Whatever is read as a roll is written in the notation of rolls. -/
theorem exists_form_of_read {cs : List Char} {b : BRoll} (h : read cs = .ok (.roll b)) :
    ∃ f : BRollForm, f.text = cs ∧ f.Rollable ∧ b = f.roll := by
  cases hparts : BRollText.read? cs with
  | none =>
    rw [read, hparts] at h
    cases h
  | some parts =>
    obtain ⟨f, rfl, -⟩ := BRollText.exists_form_of_read? hparts
    exact ⟨f, rfl, read_text_eq_roll_iff.mp h⟩

/-- The comparison that judges a command is the one that evaluation puts in its place. -/
theorem withFallback_roll_eq_ok_iff {f : BRollForm} {sign : Option String} {target : Option Int}
    {judged : BRoll} :
    f.roll.withFallback (Fallback.ofParts? sign target) = .ok judged ↔
      f.JudgedBy sign target judged.comparison ∧ judged.groups = f.roll.groups := by
  obtain ⟨groups, c⟩ := judged
  constructor
  · intro h
    cases hc : f.comparison with
    | some stated =>
      simp only [withFallback, BRollForm.roll, hc, Option.map_some, Except.ok.injEq,
        mk.injEq] at h
      obtain ⟨rfl, rfl⟩ := h
      exact ⟨.stated hc, rfl⟩
    | none =>
      cases hfallback : Fallback.ofParts? sign target with
      | none =>
        simp only [withFallback, BRollForm.roll, hc, hfallback, Option.map_none, Except.ok.injEq,
          mk.injEq] at h
        obtain ⟨rfl, rfl⟩ := h
        exact ⟨.none hc (Fallback.ofParts?_eq_none_iff.mp hfallback), rfl⟩
      | some fallback =>
        obtain ⟨hsign, htarget⟩ := Fallback.ofParts?_eq_some_iff.mp hfallback
        cases hop : CompareOp.ofSign? fallback.sign with
        | none =>
          simp [withFallback, BRollForm.roll, hc, hfallback, Fallback.comparison, hop, bind,
            Except.bind] at h
        | some op =>
          simp only [withFallback, BRollForm.roll, hc, hfallback, Fallback.comparison, hop,
            bind, Except.bind, pure, Except.pure, Option.map_none, Except.ok.injEq, mk.injEq] at h
          obtain ⟨rfl, rfl⟩ := h
          exact ⟨.fallback hc hsign htarget (CompareOp.ofSign?_eq_some_iff.mp hop), rfl⟩
  · rintro ⟨hjudged, hgroups⟩
    obtain rfl : groups = f.roll.groups := hgroups
    cases hjudged with
    | stated hc => simp [withFallback, BRollForm.roll, hc]
    | @fallback op s t hnone hsign htarget hop =>
      have hfallback : Fallback.ofParts? sign target = some ⟨s, t⟩ :=
        Fallback.ofParts?_eq_some_iff.mpr ⟨hsign, htarget⟩
      simp [withFallback, BRollForm.roll, hnone, hfallback, Fallback.comparison,
        CompareOp.ofSign?_eq_some_iff.mpr hop, bind, Except.bind, pure, Except.pure]
    | none hnone hparts =>
      have hfallback := Fallback.ofParts?_eq_none_iff.mpr hparts
      simp [withFallback, BRollForm.roll, hnone, hfallback]

/-! ## Results -/

/-- The account of a roll whose groups showed these faces. -/
def accountText (b : BRoll) (rolled : List (List Nat)) : String :=
  "(" ++ "+".intercalate (b.groups.map fun g => toString g.times ++ "B" ++ toString g.sides) ++
    (match b.comparison with
      | none => ""
      | some c => c.op.sign ++ toString c.target) ++
    ") ＞ " ++ " ".intercalate (rolled.map fun faces => ",".intercalate (faces.map toString)) ++
    match b.comparison with
      | none => ""
      | some c => " ＞ Successes: " ++ toString (Comparison.successes (some c) rolled.flatten)

@[simp] theorem faces_writtenReport (b : BRoll) (rolled : List (List Nat)) :
    (b.writtenReport rolled).faces = rolled.flatten := by
  cases hc : b.comparison <;> simp [writtenReport, reportAs, hc]

@[simp] theorem lastFaces_writtenReport (b : BRoll) (rolled : List (List Nat)) :
    (b.writtenReport rolled).lastFaces = rolled.getLast?.getD [] := by
  cases hc : b.comparison <;> simp [writtenReport, reportAs, hc]

theorem successes_writtenReport (b : BRoll) (rolled : List (List Nat)) :
    (b.writtenReport rolled).successes = Comparison.successes b.comparison rolled.flatten := by
  cases hc : b.comparison with
  | none => simp [writtenReport, reportAs, hc, Comparison.successes]
  | some c => simp only [writtenReport, reportAs, hc, Comparison.countP_accepts]

theorem text_writtenReport (b : BRoll) (rolled : List (List Nat)) :
    (b.writtenReport rolled).text = b.accountText rolled := by
  have hgroups : b.groups.map DiceGroup.render =
      b.groups.map fun g => toString g.times ++ "B" ++ toString g.sides := rfl
  have hsuccesses : ∀ n : Nat, stageSeparator ++ s!"Successes: {n}" =
      " ＞ Successes: " ++ toString n := by
    intro n
    rw [← String.append_assoc]
    rfl
  cases hc : b.comparison with
  | none =>
    simp only [writtenReport, reportAs, accountText, hc, written, hgroups, joinStages, renderFaces,
      String.intercalate_cons_cons, String.intercalate_singleton, Option.map_none,
      Option.getD_none, String.append_assoc, String.append_empty]
    rfl
  | some c =>
    simp only [writtenReport, reportAs, accountText, hc, written, hgroups, joinStages, renderFaces,
      Comparison.written, Comparison.countP_accepts, hsuccesses, String.intercalate_cons_cons,
      String.intercalate_singleton, List.cons_append, List.nil_append, Option.map_some,
      Option.getD_some, String.append_assoc]
    rfl

section
variable {σ : Type} [DieSource σ]

/-- What a roll comes to with a roller: its report, and the roller behind it. -/
structure ComesTo (b : BRoll) (r : Roller σ) (report : RollReport) (s : Roller σ) : Prop where
  /-- The dice show the next faces of the source. -/
  faces : report.faces = DieSource.faces b.dice r.source
  /-- The last group shows the last of them. -/
  lastFaces : ∀ g ∈ b.groups.getLast?,
    report.lastFaces = report.faces.drop (report.faces.length - g.times)
  /-- The faces of all groups are judged. -/
  successes : report.successes = Comparison.successes b.comparison report.faces
  text : report.text = b.accountText (DieSource.groupFaces b.groups r.source)
  source : s.source = DieSource.after b.dice r.source
  limit : s.limit = r.limit
  /-- Every face goes on record with the number of sides of its die, and nothing else does. -/
  record : s.record.toList = r.record.toList ++ List.zipWith Draw.mk report.faces b.dice

/-- Throwing all dice of a roll is what it comes to. -/
theorem comesTo_writtenReport (b : BRoll) {r s : Roller σ}
    (hs : s.unlogged = (r.drawn b.dice).unlogged) :
    b.ComesTo r (b.writtenReport (DieSource.groupFaces b.groups r.source)) s := by
  obtain ⟨hsource, hlimit, hrecord⟩ := Roller.unlogged_eq_iff.mp hs
  have hfaces : (b.writtenReport (DieSource.groupFaces b.groups r.source)).faces =
      DieSource.faces b.dice r.source := by
    rw [faces_writtenReport, DieSource.flatten_groupFaces, dice]
  exact {
    faces := hfaces
    lastFaces := by
      intro g hg
      rw [lastFaces_writtenReport, faces_writtenReport, DieSource.getLast?_groupFaces hg,
        Option.getD_some]
    successes := by rw [successes_writtenReport, faces_writtenReport]
    text := b.text_writtenReport _
    source := hsource
    limit := hlimit
    record := by
      rw [hfaces, ← DieSource.draws_eq_zipWith, hrecord, Roller.record_drawn, Array.toList_append] }

/-- A command that is read as a roll asks for its dice. -/
theorem plan_of_read {command : String} {b : BRoll} (h : read command.toList = .ok (.roll b))
    (fallback : Option Fallback) :
    plan command fallback = .throwing b.dice (b.account fallback) := by
  rw [plan, h]

/-- With the fallback in its place, a roll has the report of the roll that is judged. -/
theorem account_of_withFallback {b judged : BRoll} {fallback : Option Fallback}
    (hjudged : b.withFallback fallback = .ok judged) (s : σ) :
    b.account fallback (DieSource.faces b.dice s) =
      judged.report (DieSource.groupFaces b.groups s) := by
  rw [account, hjudged, dice, DieSource.deal_faces]
  rfl

/-- A roll that is read from a command and finds room on the record is thrown and judged. -/
theorem exists_run_eval {command : String} {b judged : BRoll} {fallback : Option Fallback}
    (hread : read command.toList = .ok (.roll b)) (hjudged : b.withFallback fallback = .ok judged)
    (hwritable : judged.Writable) {r : Roller σ} (hroom : b.dice.length ≤ r.room) :
    ∃ s, (eval command fallback).run r =
        .ok (some (judged.writtenReport (DieSource.groupFaces b.groups r.source))) s ∧
      s.unlogged = (r.drawn b.dice).unlogged := by
  apply Rolling.exists_run_of_outcome
  rw [(alike_eval command fallback).outcome_eq, Plan.outcome_perform (plan_throwable _ _),
    plan_of_read hread, Plan.result_of_le hroom, account_of_withFallback hjudged,
    report_of_writable hwritable]
  rfl

/-- A roll that is read from a command and finds too little room is thrown as far as there is. -/
theorem exists_run_eval_of_lt {command : String} {b : BRoll} (fallback : Option Fallback)
    (hread : read command.toList = .ok (.roll b)) {r : Roller σ} (hroom : r.room < b.dice.length) :
    ∃ s, (eval command fallback).run r = .error (.drawLimit r.limit) s ∧
      s.unlogged = (r.drawn (b.dice.take r.room)).unlogged := by
  apply Rolling.exists_run_of_outcome_error
  rw [(alike_eval command fallback).outcome_eq, Plan.outcome_perform (plan_throwable _ _),
    plan_of_read hread, Plan.result_of_lt hroom]
  rfl

/-- A command whose numbers are refused leaves the roller as it was. -/
theorem run_eval_of_error {command : String} {fault : Fault} (fallback : Option Fallback)
    (hread : read command.toList = .error fault) (r : Roller σ) :
    (eval command fallback).run r = .error fault r := by
  rw [eval, hread]
  rfl

/-- A roll has as many dice as its groups state. -/
theorem length_dice_roll (f : BRollForm) : f.roll.dice.length = f.diceCount := by
  simp [dice, DiceGroup.dice, BRollForm.diceCount, BRollForm.roll, GroupForm.group,
    List.length_flatMap, Function.comp_def]

/-- A target that a command states can be written. -/
theorem writable_of_stated {f : BRollForm} (hf : f.Rollable) : f.roll.Writable := by
  intro c hc
  obtain ⟨stated, hstated, rfl⟩ := Option.map_eq_some_iff.mp hc
  exact writable_of_lt ((significantCount_le_iff stated.target_isNumeral.2).mp
    (hf.target_short stated hstated))

end

end BRoll

end ChatDice
