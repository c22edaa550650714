import ChatDice.Proofs.Dice.ShownNotation
import ChatDice.Random.Replay

/-!
# ChatDice.Proofs.Dice.Joining — rolls joined with a plus sign

The groups of a B roll are thrown from left to right and know nothing of each other: what one group
leaves of the source and of the limit is there for the next. So a roll of many groups can be cut at
any plus sign. `BRoll.eval_join` says that a joined roll does what its two parts do one after the
other with the same roller, with the record of the first part still in place. If the limit falls
into one of the groups, both ways end with the same fault behind the same die.
-/

namespace ChatDice

/-! ## Joined texts -/

theorem intercalate_append_of_ne_nil {α : Type} (sep : List α) {l m : List (List α)} (hl : l ≠ [])
    (hm : m ≠ []) : sep.intercalate (l ++ m) = sep.intercalate l ++ sep ++ sep.intercalate m := by
  induction l with
  | nil => exact absurd rfl hl
  | cons a l ih =>
    have hrest : l ++ m ≠ [] := by simp [hm]
    rw [List.cons_append, List.intercalate_cons_of_ne_nil hrest]
    by_cases hnil : l = []
    · simp [hnil]
    · rw [ih hnil, List.intercalate_cons_of_ne_nil hnil]
      simp

namespace GroupForm

/-- The characters of groups with plus signs between them. -/
def joinedText (groups : List GroupForm) : List Char :=
  ['+'].intercalate (groups.map text)

/-- Two runs of groups are joined by one more plus sign. -/
theorem joinedText_append {G H : List GroupForm} (hG : G ≠ []) (hH : H ≠ []) :
    joinedText (G ++ H) = joinedText G ++ '+' :: joinedText H := by
  rw [joinedText, List.map_append, intercalate_append_of_ne_nil _ (by simpa) (by simpa)]
  simp [joinedText]

/-- A group can be rolled if its numbers make a legible one. -/
theorem rollable_of_legible {g : GroupForm} (h : g.group.Legible) : g.Rollable where
  times_pos := h.times_pos
  sides_pos := h.sides_pos
  times_short := (significantCount_le_iff g.times_isNumeral.2).mpr h.times_lt
  sides_short := (significantCount_le_iff g.sides_isNumeral.2).mpr h.sides_lt

end GroupForm

/-! ## Joined reports -/

/-- A report of two rolls together: the faces one behind the other, the successes of both, and the
last group of the second. -/
structure RollReport.Joins (joined first second : RollReport) : Prop where
  faces : joined.faces = first.faces ++ second.faces
  successes : joined.successes = first.successes + second.successes
  lastFaces : joined.lastFaces = second.lastFaces

namespace BRoll

theorem writtenReport_joins {G H : List DiceGroup} {c : Comparison}
    {first second : List (List Nat)} (h : second ≠ []) :
    (writtenReport ⟨G ++ H, some c⟩ (first ++ second)).Joins (writtenReport ⟨G, some c⟩ first)
      (writtenReport ⟨H, some c⟩ second) where
  faces := by simp
  successes := by simp [successes_writtenReport, Comparison.successes]
  lastFaces := by simp [List.getLast?_append_of_ne_nil _ h]

theorem length_deal (groups : List DiceGroup) (faces : List Nat) :
    (deal groups faces).length = groups.length := by
  induction groups generalizing faces with
  | nil => rfl
  | cons g groups ih => simp [deal, ih]

section
variable {σ : Type} [DieSource σ]

/-! ## Groups thrown in two portions -/

/-- Groups thrown together are thrown in two portions. -/
theorem rollGroups_append (G H : List DiceGroup) :
    (rollGroups (G ++ H) : Rolling σ (List (List Nat))) = do
      let first ← rollGroups G
      let second ← rollGroups H
      return first ++ second := by
  induction G with
  | nil => simp [rollGroups]
  | cons g G ih => simp [rollGroups, ih]

/-- Groups of dice with sides show faces for each of them, or exceed the limit. -/
theorem run_rollGroups_cases {groups : List DiceGroup} (hsides : ∀ g ∈ groups, 1 ≤ g.sides)
    (r : Roller σ) :
    (∃ rolled s, (rollGroups groups).run r = .ok rolled s ∧ rolled.length = groups.length ∧
      s.limit = r.limit) ∨
    ∃ s, (rollGroups groups).run r = .error (.drawLimit r.limit) s := by
  have hdice : ∀ n ∈ groups.flatMap DiceGroup.dice, 1 ≤ n := by
    intro n hn
    obtain ⟨g, hg, hn⟩ := List.mem_flatMap.mp hn
    rw [List.eq_of_mem_replicate hn]
    exact hsides g hg
  have houtcome := outcome_rollEach hdice r
  rw [rollGroups_eq, EStateM.run_bind]
  split at houtcome
  · obtain ⟨s, hrun, hs⟩ := Rolling.exists_run_of_outcome houtcome
    obtain ⟨-, hlimit, -⟩ := Roller.unlogged_eq_iff.mp hs
    rw [hrun]
    exact .inl ⟨_, s, rfl, length_deal _ _, hlimit⟩
  · obtain ⟨s, hrun, -⟩ := Rolling.exists_run_of_outcome_error houtcome
    rw [hrun]
    exact .inr ⟨s, rfl⟩

/-- Groups thrown together end as the first of them do at the limit, and else as the others do with
the roller that the first ones have left. -/
theorem run_rollGroups_append_cases {G H : List DiceGroup} (hsides : ∀ g ∈ G ++ H, 1 ≤ g.sides)
    (r : Roller σ) :
    (∃ s, (rollGroups G).run r = .error (.drawLimit r.limit) s ∧
      (rollGroups (G ++ H)).run r = .error (.drawLimit r.limit) s) ∨
    ∃ first s, (rollGroups G).run r = .ok first s ∧
      ((∃ t, (rollGroups H).run s = .error (.drawLimit r.limit) t ∧
        (rollGroups (G ++ H)).run r = .error (.drawLimit r.limit) t) ∨
      ∃ second t, (rollGroups H).run s = .ok second t ∧ second.length = H.length ∧
        (rollGroups (G ++ H)).run r = .ok (first ++ second) t) := by
  rw [rollGroups_append, EStateM.run_bind]
  have hG : ∀ g ∈ G, 1 ≤ g.sides := fun g hg => hsides g (List.mem_append_left H hg)
  have hH : ∀ g ∈ H, 1 ≤ g.sides := fun g hg => hsides g (List.mem_append_right G hg)
  rcases run_rollGroups_cases hG r with ⟨first, s, hfirst, -, hlimit⟩ | ⟨s, hfirst⟩
  · refine .inr ⟨first, s, hfirst, ?_⟩
    rw [hfirst, ← hlimit]
    rcases run_rollGroups_cases hH s with ⟨second, t, hsecond, hlength, -⟩ | ⟨t, hsecond⟩
    · refine .inr ⟨second, t, hsecond, hlength, ?_⟩
      simp only [EStateM.run_bind, hsecond]
      rfl
    · refine .inl ⟨t, hsecond, ?_⟩
      simp only [EStateM.run_bind, hsecond]
  · refine .inl ⟨s, hfirst, ?_⟩
    rw [hfirst]

/-! ## Joined rolls -/

/-- Groups in front of a comparison are thrown and judged by it. -/
theorem eval_groups {groups : List GroupForm} (hne : groups ≠ [])
    (hlegible : ∀ g ∈ groups, g.group.Legible) {c : ComparisonForm}
    (htarget : numeralValue c.target < 10 ^ maxDigits) (fallback : Option Fallback) :
    (eval (String.ofList (GroupForm.joinedText groups ++ c.text)) fallback :
        Rolling σ (Option RollReport)) = do
      let rolled ← rollGroups (groups.map GroupForm.group)
      return some (writtenReport ⟨groups.map GroupForm.group, some c.comparison⟩ rolled) := by
  let f : BRollForm := ⟨groups, some c, hne⟩
  have hf : f.Rollable := by
    constructor
    · intro g hg
      exact GroupForm.rollable_of_legible (hlegible g hg)
    · rintro d ⟨⟩
      exact (significantCount_le_iff c.target_isNumeral.2).mpr htarget
  have hreport : ∀ rolled, report f.roll rolled = .ok (writtenReport f.roll rolled) :=
    report_of_writable (writable_of_stated hf)
  have hstated : f.roll.withFallback fallback = .ok f.roll := rfl
  rw [show GroupForm.joinedText groups ++ c.text = f.text from rfl,
    eval_of_read (read_ofList_text hf), throwDice, hstated]
  simp only [Rolling.ofExcept, pure_bind, hreport]
  simp [f, BRollForm.roll]

/-- Joining rolls with a plus sign is rolling one after the other. The joined roll ends as the first
part does if that exceeds the limit. Otherwise the second part is rolled with the roller that the
first one has left, and the joined roll ends as it does: with the same fault, or with the report of
both. In each of the three cases the roller is the same, with its record, source and log. -/
theorem eval_join {G H : List GroupForm} (hG : G ≠ []) (hH : H ≠ [])
    (hlegible : ∀ g ∈ G ++ H, g.group.Legible) {c : ComparisonForm}
    (htarget : numeralValue c.target < 10 ^ 18) (fallback : Option Fallback) (r : Roller σ) :
    let first : Rolling σ (Option RollReport) :=
      eval (String.ofList (GroupForm.joinedText G ++ c.text)) fallback
    let second : Rolling σ (Option RollReport) :=
      eval (String.ofList (GroupForm.joinedText H ++ c.text)) fallback
    let joined : Rolling σ (Option RollReport) :=
      eval (String.ofList (GroupForm.joinedText G ++ '+' :: GroupForm.joinedText H ++ c.text))
        fallback
    (∃ s, first.run r = .error (.drawLimit r.limit) s ∧
      joined.run r = .error (.drawLimit r.limit) s) ∨
    ∃ a s, first.run r = .ok (some a) s ∧
      ((∃ t, second.run s = .error (.drawLimit r.limit) t ∧
        joined.run r = .error (.drawLimit r.limit) t) ∨
      ∃ b report t, second.run s = .ok (some b) t ∧ joined.run r = .ok (some report) t ∧
        report.Joins a b) := by
  intro first second joined
  have hwhole : G ++ H ≠ [] := by simp [hG]
  have hfirst : first = _ :=
    eval_groups hG (fun g hg => hlegible g (List.mem_append_left H hg)) htarget fallback
  have hsecond : second = _ :=
    eval_groups hH (fun g hg => hlegible g (List.mem_append_right G hg)) htarget fallback
  have hjoined : joined = _ :=
    GroupForm.joinedText_append hG hH ▸ eval_groups hwhole hlegible htarget fallback
  have hsides : ∀ g ∈ G.map GroupForm.group ++ H.map GroupForm.group, 1 ≤ g.sides := by
    intro g hg
    rw [← List.map_append] at hg
    obtain ⟨form, hform, rfl⟩ := List.mem_map.mp hg
    exact (hlegible form hform).sides_pos
  rw [List.map_append] at hjoined
  simp only [hfirst, hsecond, hjoined, EStateM.run_bind]
  rcases run_rollGroups_append_cases hsides r with
    ⟨s, hrunG, hrun⟩ | ⟨facesG, s, hrunG, ⟨t, hrunH, hrun⟩ | ⟨facesH, t, hrunH, hlength, hrun⟩⟩
  · -- The limit falls into the first part.
    simp only [hrunG, hrun]
    exact .inl ⟨s, rfl, rfl⟩
  · -- The limit falls into the second part, behind a first one that has a report.
    simp only [hrunG, hrun]
    refine .inr ⟨_, s, rfl, .inl ⟨t, ?_, rfl⟩⟩
    rw [hrunH]
  · simp only [hrunG, hrun]
    refine .inr ⟨_, s, rfl, .inr ⟨_, _, t, ?_, rfl, writtenReport_joins ?_⟩⟩
    · rw [hrunH]
      rfl
    · -- The second part has a last group.
      rw [← List.length_pos_iff, hlength, List.length_map, List.length_pos_iff]
      exact hH

/-- Three groups cut behind the second, with room for all of their dice; and with room for no more
than the first die of the last group, behind a draw that is already on record. -/
theorem eval_join_three_groups :
    let roomy : Roller Replay := { source := { faces := #[6, 2, 9, 3, 1, 4] }, limit := 6 }
    let narrow : Roller Replay :=
      { source := { faces := #[5, 6, 2, 9, 3], taken := 1 }, limit := 5, record := #[⟨5, 6⟩] }
    (∃ a b report s t, (eval "02b6+1B10=>3").run roomy = .ok (some a) s ∧
      (eval "3B4=>3").run s = .ok (some b) t ∧
      (eval "02b6+1B10+3B4=>3").run roomy = .ok (some report) t ∧ report.Joins a b) ∧
    ∃ a s t, (eval "02b6+1B10=>3").run narrow = .ok (some a) s ∧
      (eval "3B4=>3").run s = .error (.drawLimit 5) t ∧
      (eval "02b6+1B10+3B4=>3").run narrow = .error (.drawLimit 5) t := by
  intro roomy narrow
  let G : List GroupForm :=
    [⟨['0', '2'], 'b', ['6'], by decide, by decide, by decide⟩,
      ⟨['1'], 'B', ['1', '0'], by decide, by decide, by decide⟩]
  let H : List GroupForm := [⟨['3'], 'B', ['4'], by decide, by decide, by decide⟩]
  let c : ComparisonForm := ⟨.ge, ['=', '>'], ['3'], by decide, by decide⟩
  have hlegible : ∀ g ∈ G ++ H, g.group.Legible := by
    intro g hg
    simp only [G, H, List.cons_append, List.nil_append, List.mem_cons, List.not_mem_nil,
      or_false] at hg
    rcases hg with rfl | rfl | rfl <;> exact ⟨by decide, by decide, by decide, by decide⟩
  have hmain (r : Roller Replay) := eval_join (G := G) (H := H) (by decide) (by decide) hlegible
    (c := c) (by decide) none r
  let first : BRoll := ⟨[⟨2, 6⟩, ⟨1, 10⟩], some ⟨.ge, 3⟩⟩
  let whole : BRoll := ⟨[⟨2, 6⟩, ⟨1, 10⟩, ⟨3, 4⟩], some ⟨.ge, 3⟩⟩
  have hfirst : read "02b6+1B10=>3".toList = .ok (.roll first) := by decide +kernel
  have hwhole : read "02b6+1B10+3B4=>3".toList = .ok (.roll whole) := by decide +kernel
  have hstated : first.withFallback none = .ok first ∧ whole.withFallback none = .ok whole :=
    ⟨rfl, rfl⟩
  have hwritable : first.Writable ∧ whole.Writable :=
    ⟨(legible_of_read hfirst).writable, (legible_of_read hwhole).writable⟩
  constructor
  · obtain ⟨u, hrun, -⟩ := exists_run_eval hwhole hstated.2 hwritable.2 (r := roomy) (by decide)
    rcases hmain roomy with ⟨s, -, herror⟩ |
      ⟨a, s, hrunG, ⟨t, -, herror⟩ | ⟨b, report, t, hrunH, hreport, hjoins⟩⟩
    · cases hrun.symm.trans herror
    · cases hrun.symm.trans herror
    · exact ⟨a, b, report, s, t, hrunG, hrunH, hreport, hjoins⟩
  · obtain ⟨u, hok, -⟩ := exists_run_eval hfirst hstated.1 hwritable.1 (r := narrow) (by decide)
    obtain ⟨u', herror, -⟩ := exists_run_eval_of_lt none hwhole (r := narrow) (by decide)
    rcases hmain narrow with ⟨s, herrorG, -⟩ |
      ⟨a, s, hrunG, ⟨t, hrunH, hcut⟩ | ⟨b, report, t, -, hreport, -⟩⟩
    · cases hok.symm.trans herrorG
    · exact ⟨a, s, t, hrunG, hrunH, hcut⟩
    · cases herror.symm.trans hreport

end

end BRoll

end ChatDice
