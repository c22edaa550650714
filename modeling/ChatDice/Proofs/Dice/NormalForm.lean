import ChatDice.Proofs.Dice.Notation

/-!
# ChatDice.Proofs.Dice.NormalForm — the notation that a roll is shown in

A roll may be written with small letters, zeros in front of its numbers and two spellings of a sign.
It is shown in one way only, which is `BRoll.written`. A roll that was read from a command is
`Legible`: none of its groups is empty and all of its numbers are short. What is shown of a legible
roll is read back as the same roll (`BRoll.read_written`).

A roll that is judged by a comparison of the game may have a longer target. It is shown in the same
way as long as the target can be written (`BRoll.report_eq_ok_iff`).
-/

namespace ChatDice

/-! ## Legible rolls -/

/-- A group that can be read: it has dice, they have sides, and both numbers are short. -/
structure DiceGroup.Legible (g : DiceGroup) : Prop where
  times_pos : 1 ≤ g.times
  times_lt : g.times < 10 ^ maxDigits
  sides_pos : 1 ≤ g.sides
  sides_lt : g.sides < 10 ^ maxDigits

/-- A comparison that can be read: its target is a short number. -/
structure Comparison.Legible (c : Comparison) : Prop where
  target_nonneg : 0 ≤ c.target
  target_lt : c.target.toNat < 10 ^ maxDigits

/-- A roll that can be read. -/
structure BRoll.Legible (r : BRoll) : Prop where
  groups_ne_nil : r.groups ≠ []
  groups : ∀ g ∈ r.groups, g.Legible
  comparison : ∀ c ∈ r.comparison, c.Legible

/-! ## Rolls in writing -/

/-- The comparison in writing, however long its target is. -/
def Comparison.written (c : Comparison) : String :=
  c.op.sign ++ toString c.target

/-- The roll in writing, however long the target of its comparison is. -/
def BRoll.written (r : BRoll) : String :=
  "+".intercalate (r.groups.map DiceGroup.render) ++ (r.comparison.map Comparison.written).getD ""

/-- The target of the roll's comparison can be written. -/
def BRoll.Writable (r : BRoll) : Prop :=
  ∀ c ∈ r.comparison, ChatDice.Writable c.target

theorem Comparison.render_of_writable {c : Comparison} (h : ChatDice.Writable c.target) :
    c.render = .ok c.written := by
  rw [render, writeNumber_of_writable h]
  rfl

theorem Comparison.render_of_not_writable {c : Comparison} (h : ¬ChatDice.Writable c.target) :
    c.render = .error .unwritableNumber := by
  rw [render, writeNumber_of_not_writable h]
  rfl

theorem Comparison.Legible.writable {c : Comparison} (h : c.Legible) :
    ChatDice.Writable c.target := by
  rw [← Int.toNat_of_nonneg h.target_nonneg]
  exact writable_of_lt h.target_lt

namespace BRoll

theorem Legible.writable {r : BRoll} (h : r.Legible) : r.Writable :=
  fun c hc => (h.comparison c hc).writable

theorem render_of_writable {r : BRoll} (h : r.Writable) : r.render = .ok r.written := by
  unfold render written
  cases hc : r.comparison with
  | none => simp only [Option.map_none, Option.getD_none, String.append_empty]; rfl
  | some c =>
    simp only [Comparison.render_of_writable (h c hc), Option.map_some, Option.getD_some]
    rfl

theorem render_of_not_writable {r : BRoll} (h : ¬r.Writable) :
    r.render = .error .unwritableNumber := by
  unfold render
  cases hc : r.comparison with
  | none => exact absurd (fun c hc' => by simp [hc] at hc') h
  | some c =>
    have hlong : ¬ChatDice.Writable c.target := by
      intro htarget
      apply h
      rintro d hd
      obtain rfl : c = d := Option.some.inj (hc ▸ hd)
      exact htarget
    simp only [Comparison.render_of_not_writable hlong]
    rfl

/-- The account that shows the roll in writing. -/
def writtenReport (r : BRoll) (rolled : List (List Nat)) : RollReport :=
  r.reportAs r.written rolled

theorem report_of_writable {r : BRoll} (h : r.Writable) (rolled : List (List Nat)) :
    r.report rolled = .ok (r.writtenReport rolled) := by
  rw [report, render_of_writable h]
  rfl

theorem report_of_not_writable {r : BRoll} (h : ¬r.Writable) (rolled : List (List Nat)) :
    r.report rolled = .error .unwritableNumber := by
  rw [report, render_of_not_writable h]
  rfl

/-- There is an account of a roll if the roll can be written, whatever its faces are. -/
theorem report_eq_ok_iff {r : BRoll} {rolled : List (List Nat)} {report : RollReport} :
    r.report rolled = .ok report ↔ r.Writable ∧ report = r.writtenReport rolled := by
  by_cases h : r.Writable
  · rw [report_of_writable h, Except.ok.injEq, eq_comm]
    exact (and_iff_right h).symm
  · rw [report_of_not_writable h]
    simp [h]

end BRoll

/-! ## Reading a roll -/

/-- Groups that are read are as many as were written, and each of them is legible. -/
theorem legible_of_readGroups {forms : List GroupForm} {groups : List DiceGroup}
    (h : readGroups (forms.map GroupForm.parts) = .ok (.ok groups)) :
    groups.length = forms.length ∧ ∀ g ∈ groups, g.Legible := by
  induction forms generalizing groups with
  | nil =>
    simp only [List.map_nil, readGroups, Except.ok.injEq] at h
    simp [← h]
  | cons form forms ih =>
    rw [List.map_cons] at h
    obtain ⟨times, sides, rest, htimes, hsides, hempty, hrest, rfl⟩ := exists_of_readGroups_cons h
    obtain ⟨hlength, hlegible⟩ := ih hrest
    have hfirst : DiceGroup.Legible ⟨times, sides⟩ :=
      { times_pos := Nat.one_le_iff_ne_zero.mpr fun h => hempty (.inl h)
        times_lt := lt_of_readNumber form.times_isNumeral.2 htimes
        sides_pos := Nat.one_le_iff_ne_zero.mpr fun h => hempty (.inr h)
        sides_lt := lt_of_readNumber form.sides_isNumeral.2 hsides }
    refine ⟨by simp [hlength], ?_⟩
    intro g hg
    rcases List.mem_cons.mp hg with rfl | hg
    · exact hfirst
    · exact hlegible g hg

theorem legible_of_readTarget {form : Option ComparisonForm} {comparison : Option Comparison}
    (h : readTarget (form.map ComparisonForm.parts) = .ok comparison) :
    ∀ c ∈ comparison, c.Legible := by
  cases form with
  | none =>
    simp only [Option.map_none, readTarget, Except.ok.injEq] at h
    simp [← h]
  | some form =>
    simp only [Option.map_some, ComparisonForm.parts, readTarget, bind, Except.bind] at h
    cases htarget : readNumber form.target with
    | error fault => simp [htarget] at h
    | ok target =>
      simp only [htarget, pure, Except.pure, Except.ok.injEq] at h
      subst h
      intro c hc
      simp only [Option.mem_some_iff] at hc
      subst hc
      exact ⟨Int.natCast_nonneg target, lt_of_readNumber form.target_isNumeral.2 htarget⟩

namespace BRoll

/-- A roll as it is read from its form: first the groups, then the target. -/
theorem read_text (f : BRollForm) :
    read f.text =
      match readGroups (f.groups.map GroupForm.parts) with
      | .error fault => .error fault
      | .ok (.error g) => .ok (.emptyGroup g)
      | .ok (.ok groups) =>
        (readTarget (f.comparison.map ComparisonForm.parts)).map fun c => .roll ⟨groups, c⟩ := by
  rw [read, BRollForm.read?_text, BRollForm.parts]
  simp only [bind, Except.bind, pure, Except.pure]
  cases readGroups (f.groups.map GroupForm.parts) with
  | error fault => rfl
  | ok groups =>
    cases groups with
    | error g => rfl
    | ok groups => cases readTarget (f.comparison.map ComparisonForm.parts) <;> rfl

/-- A roll that is read is legible. -/
theorem legible_of_read {cs : List Char} {r : BRoll} (h : read cs = .ok (.roll r)) :
    r.Legible := by
  cases hparts : BRollText.read? cs with
  | none =>
    rw [read, hparts] at h
    cases h
  | some parts =>
    obtain ⟨f, rfl, -⟩ := BRollText.exists_form_of_read? hparts
    rw [read_text] at h
    cases hread : readGroups (f.groups.map GroupForm.parts) with
    | error fault => simp [hread] at h
    | ok groups =>
      cases groups with
      | error g => simp [hread] at h
      | ok groups =>
        cases htarget : readTarget (f.comparison.map ComparisonForm.parts) with
        | error fault => simp [hread, htarget, Except.map] at h
        | ok comparison =>
          simp only [hread, htarget, Except.map, Except.ok.injEq, Reading.roll.injEq] at h
          subst h
          obtain ⟨hlength, hlegible⟩ := legible_of_readGroups hread
          refine ⟨?_, hlegible, legible_of_readTarget htarget⟩
          rw [← List.length_pos_iff, hlength, List.length_pos_iff]
          exact f.groups_ne_nil

end BRoll

/-! ## Forms of rolls -/

/-- The letter of a group is shown as a capital. -/
theorem GroupForm.capital_mark : 'B' = 'B' ∨ 'B' = 'b' := .inl rfl

/-- The group in the notation in which it is shown. -/
def DiceGroup.form (g : DiceGroup) : GroupForm where
  times := (toString g.times).toList
  mark := 'B'
  sides := (toString g.sides).toList
  times_isNumeral := isNumeral_toString g.times
  mark_eq := GroupForm.capital_mark
  sides_isNumeral := isNumeral_toString g.sides

theorem CompareOp.sign_mem_spellings (op : CompareOp) : op.sign.toList ∈ op.spellings := by
  cases op <;> decide

/-- The comparison in the notation in which it is shown. -/
def Comparison.form (c : Comparison) : ComparisonForm where
  op := c.op
  sign := c.op.sign.toList
  target := (toString c.target.toNat).toList
  sign_mem := c.op.sign_mem_spellings
  target_isNumeral := isNumeral_toString c.target.toNat

/-- The roll in the notation in which it is shown. -/
def BRoll.form (r : BRoll) (h : r.groups ≠ []) : BRollForm where
  groups := r.groups.map DiceGroup.form
  comparison := r.comparison.map Comparison.form
  groups_ne_nil := by simpa using h

theorem DiceGroup.text_form (g : DiceGroup) : g.form.text = g.render.toList := by
  simp [form, GroupForm.text, render]

theorem Comparison.text_form {c : Comparison} (h : 0 ≤ c.target) :
    c.form.text = c.written.toList := by
  obtain ⟨n, hn⟩ := Int.eq_ofNat_of_zero_le h
  have htarget : toString c.target = toString c.target.toNat := by
    rw [hn]
    rfl
  simp [form, ComparisonForm.text, written, htarget]

theorem BRoll.text_form {r : BRoll} (h : r.Legible) :
    (r.form h.groups_ne_nil).text = r.written.toList := by
  have hgroups : GroupForm.text ∘ DiceGroup.form = String.toList ∘ DiceGroup.render :=
    funext DiceGroup.text_form
  have hending : BRollForm.ending (r.comparison.map Comparison.form) =
      ((r.comparison.map Comparison.written).getD "").toList := by
    cases hc : r.comparison with
    | none => rfl
    | some c => exact Comparison.text_form (h.comparison c hc).target_nonneg
  rw [form, BRollForm.text, hending, written, String.toList_append, String.toList_intercalate,
    List.map_map, List.map_map, hgroups]
  rfl

/-! ## Reading what is shown -/

theorem readGroups_form {groups : List DiceGroup} (h : ∀ g ∈ groups, g.Legible) :
    readGroups ((groups.map DiceGroup.form).map GroupForm.parts) = .ok (.ok groups) := by
  induction groups with
  | nil => rfl
  | cons g groups ih =>
    have hg := h g (by simp)
    have hrest := ih fun g' hg' => h g' (List.mem_cons_of_mem g hg')
    have htimes : readNumber g.form.parts.times = .ok g.times := readNumber_toString hg.times_lt
    have hsides : readNumber g.form.parts.sides = .ok g.sides := readNumber_toString hg.sides_lt
    have hempty : ¬ (g.times = 0 ∨ g.sides = 0) := by
      have htimes_pos := hg.times_pos
      have hsides_pos := hg.sides_pos
      omega
    rw [List.map_cons, List.map_cons, readGroups_cons, htimes, hsides]
    simp only
    rw [if_neg hempty, hrest]
    rfl

theorem readTarget_form {comparison : Option Comparison} (h : ∀ c ∈ comparison, c.Legible) :
    readTarget ((comparison.map Comparison.form).map ComparisonForm.parts) = .ok comparison := by
  cases comparison with
  | none => rfl
  | some c =>
    have hc := h c rfl
    have htarget : (c.target.toNat : Int) = c.target := Int.toNat_of_nonneg hc.target_nonneg
    simp only [Option.map_some, ComparisonForm.parts, Comparison.form, readTarget,
      readNumber_toString hc.target_lt, bind, Except.bind, pure, Except.pure, htarget]

/-- What is shown of a legible roll is read back as the roll. -/
theorem BRoll.read_written {r : BRoll} (h : r.Legible) : read r.written.toList = .ok (.roll r) := by
  have hgroups : readGroups ((r.form h.groups_ne_nil).groups.map GroupForm.parts) =
      .ok (.ok r.groups) := readGroups_form h.groups
  have htarget : readTarget ((r.form h.groups_ne_nil).comparison.map ComparisonForm.parts) =
      .ok r.comparison := readTarget_form h.comparison
  rw [← text_form h, read_text, hgroups, htarget]
  rfl

end ChatDice
