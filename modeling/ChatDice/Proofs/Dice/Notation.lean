import ChatDice.Dice.BRoll.Reading
import ChatDice.Proofs.Dice.Numeral

/-!
# ChatDice.Proofs.Dice.Notation — how B rolls are written

`BRollForm` is the notation of B rolls as players use it: groups with `+` between them, each with
its letter in either case and digits with any leading zeros, and behind the last one optionally a
comparison in any of its spellings. A form holds what was written, and the facts that make it one.

Reading is exact: `BRollText.read?_text` says that every form is read as its parts, and
`BRollText.exists_form_of_read?` that nothing else is read.
-/

namespace ChatDice

/-! ## Forms -/

/-- A group as a player writes it. -/
structure GroupForm where
  times : List Char
  mark : Char
  sides : List Char
  times_isNumeral : IsNumeral times
  mark_eq : mark = 'B' ∨ mark = 'b'
  sides_isNumeral : IsNumeral sides

namespace GroupForm

/-- The characters of the group. -/
def text (g : GroupForm) : List Char := g.times ++ g.mark :: g.sides

/-- The group without the case of its letter. -/
def parts (g : GroupForm) : GroupText := ⟨g.times, g.sides⟩

end GroupForm

/-- The signs that a comparison is written with. -/
def CompareOp.spellings : CompareOp → List (List Char)
  | .ge => [['>', '='], ['=', '>']]
  | .le => [['<', '='], ['=', '<']]
  | .gt => [['>']]
  | .lt => [['<']]
  | .eq => [['=']]
  | .ne => [['<', '>'], ['!', '=']]

/-- A comparison as a player writes it. -/
structure ComparisonForm where
  op : CompareOp
  sign : List Char
  target : List Char
  sign_mem : sign ∈ op.spellings
  target_isNumeral : IsNumeral target

namespace ComparisonForm

/-- The characters of the comparison. -/
def text (c : ComparisonForm) : List Char := c.sign ++ c.target

/-- The comparison without the spelling of its sign. -/
def parts (c : ComparisonForm) : CompareOp × List Char := (c.op, c.target)

end ComparisonForm

/-- A B roll as a player writes it. -/
structure BRollForm where
  groups : List GroupForm
  comparison : Option ComparisonForm
  groups_ne_nil : groups ≠ []

namespace BRollForm

/-- The characters behind the groups. -/
def ending (comparison : Option ComparisonForm) : List Char :=
  (comparison.map ComparisonForm.text).getD []

/-- The characters of the roll. -/
def text (f : BRollForm) : List Char :=
  ['+'].intercalate (f.groups.map GroupForm.text) ++ ending f.comparison

/-- What is read of the roll. -/
def parts (f : BRollForm) : BRollText :=
  ⟨f.groups.map GroupForm.parts, f.comparison.map ComparisonForm.parts⟩

end BRollForm

/-! ## Groups -/

theorem isDigit_mark {c : Char} (h : c = 'B' ∨ c = 'b') : c.isDigit = false := by
  rcases h with rfl | rfl <;> decide

theorem GroupText.read?_text (g : GroupForm) {rest : List Char} (hrest : NoDigitFirst rest) :
    read? (g.text ++ rest) = some (g.parts, rest) := by
  have htext : g.text ++ rest = g.times ++ (g.mark :: (g.sides ++ rest)) := by
    simp [GroupForm.text]
  have hmark : NoDigitFirst (g.mark :: (g.sides ++ rest)) :=
    noDigitFirst_cons (isDigit_mark g.mark_eq)
  have htimes := takeWhile_isDigit_append g.times_isNumeral.2 hmark
  have hdrop := dropWhile_isDigit_append g.times_isNumeral.2 hmark
  obtain ⟨d, ds, hd⟩ := List.exists_cons_of_ne_nil g.times_isNumeral.1
  rw [htext, read?, htimes, hdrop, hd]
  simp only [takeWhile_isDigit_append g.sides_isNumeral.2 hrest,
    dropWhile_isDigit_append g.sides_isNumeral.2 hrest]
  rw [if_pos ⟨g.mark_eq, g.sides_isNumeral.1⟩]
  simp [GroupForm.parts, hd]

theorem GroupText.exists_form_of_read? {cs rest : List Char} {parts : GroupText}
    (h : read? cs = some (parts, rest)) :
    ∃ g : GroupForm, g.parts = parts ∧ cs = g.text ++ rest := by
  unfold read? at h
  simp only at h
  split at h
  · rename_i d ds mark tail htimes hdrop
    split at h
    · rename_i hmark
      simp only [Option.some.injEq, Prod.mk.injEq] at h
      obtain ⟨rfl, rfl⟩ := h
      have hnum : IsNumeral (cs.takeWhile Char.isDigit) := by
        apply isNumeral_takeWhile
        simp [htimes]
      refine ⟨⟨_, mark, _, hnum, hmark.1, isNumeral_takeWhile hmark.2⟩, rfl, ?_⟩
      have hcs := List.takeWhile_append_dropWhile (p := Char.isDigit) (l := cs)
      have htail := List.takeWhile_append_dropWhile (p := Char.isDigit) (l := tail)
      simp [GroupForm.text, htail, ← hdrop, hcs]
    · simp at h
  · simp at h

/-! ## Comparisons -/

/-- A sign starts with a character of its own: it is no digit and no `+`, and there is none. -/
theorem CompareOp.of_mem_spellings {op : CompareOp} {sign : List Char}
    (h : sign ∈ op.spellings) :
    '+' ∉ sign ∧ ∃ c rest, sign = c :: rest ∧ c.isDigit = false := by
  cases op <;> simp only [spellings, List.mem_cons, List.not_mem_nil, or_false] at h
  case ge => rcases h with rfl | rfl <;> exact ⟨by decide, _, _, rfl, by decide⟩
  case le => rcases h with rfl | rfl <;> exact ⟨by decide, _, _, rfl, by decide⟩
  case gt => subst h; exact ⟨by decide, _, _, rfl, by decide⟩
  case lt => subst h; exact ⟨by decide, _, _, rfl, by decide⟩
  case eq => subst h; exact ⟨by decide, _, _, rfl, by decide⟩
  case ne => rcases h with rfl | rfl <;> exact ⟨by decide, _, _, rfl, by decide⟩

/-- Each spelling of a sign is read as its comparison, since no digit goes on with a sign. -/
theorem CompareOp.read?_spelling {op : CompareOp} {sign : List Char} (hsign : sign ∈ op.spellings)
    {c : Char} (hc : c.isDigit = true) (rest : List Char) :
    read? (sign ++ c :: rest) = some (op, c :: rest) := by
  -- The signs of one character would be read as longer ones in front of these.
  have hne : c ≠ '=' ∧ c ≠ '>' ∧ c ≠ '<' := by
    exact ⟨ne_of_isDigit hc (by decide), ne_of_isDigit hc (by decide), ne_of_isDigit hc (by decide)⟩
  cases op <;> simp only [spellings, List.mem_cons, List.not_mem_nil, or_false] at hsign
  case ge => rcases hsign with rfl | rfl <;> rfl
  case le => rcases hsign with rfl | rfl <;> rfl
  case gt => subst hsign; simp [read?, hne]
  case lt => subst hsign; simp [read?, hne]
  case eq => subst hsign; simp [read?, hne]
  case ne => rcases hsign with rfl | rfl <;> rfl

theorem CompareOp.exists_spelling_of_read? {cs rest : List Char} {op : CompareOp}
    (h : read? cs = some (op, rest)) : ∃ sign ∈ op.spellings, cs = sign ++ rest := by
  unfold read? at h
  split at h <;> simp only [Option.some.injEq, Prod.mk.injEq, reduceCtorEq] at h
  all_goals
    obtain ⟨rfl, rfl⟩ := h
    simp [spellings]

theorem noDigitFirst_ending (comparison : Option ComparisonForm) :
    NoDigitFirst (BRollForm.ending comparison) := by
  cases comparison with
  | none => exact noDigitFirst_nil
  | some c =>
    obtain ⟨-, d, rest, hsign, hd⟩ := CompareOp.of_mem_spellings c.sign_mem
    have htext : BRollForm.ending (some c) = d :: (rest ++ c.target) := by
      simp [BRollForm.ending, ComparisonForm.text, hsign]
    rw [htext]
    exact noDigitFirst_cons hd

theorem readComparison?_ending (comparison : Option ComparisonForm) :
    readComparison? (BRollForm.ending comparison) = some (comparison.map ComparisonForm.parts) := by
  cases comparison with
  | none => rfl
  | some c =>
    obtain ⟨d, ds, hd⟩ := List.exists_cons_of_ne_nil c.target_isNumeral.1
    have hdigit : d.isDigit = true := c.target_isNumeral.2 d (by simp [hd])
    have hall : c.target.all Char.isDigit = true := List.all_eq_true.mpr c.target_isNumeral.2
    have hread := CompareOp.read?_spelling c.sign_mem hdigit ds
    have hne : c.sign ++ d :: ds ≠ [] := by simp
    show readComparison? (c.sign ++ c.target) = some (some (c.op, c.target))
    rw [hd] at hall ⊢
    unfold readComparison?
    rw [if_neg hne, hread]
    simp only [ne_eq, reduceCtorEq, not_false_eq_true, hall, and_self, if_true]

theorem exists_form_of_readComparison? {cs : List Char} {parts : Option (CompareOp × List Char)}
    (h : readComparison? cs = some parts) :
    ∃ c : Option ComparisonForm, c.map ComparisonForm.parts = parts ∧ cs = BRollForm.ending c := by
  unfold readComparison? at h
  split at h
  · rename_i hnil
    refine ⟨none, ?_, hnil⟩
    simpa using h
  · split at h
    · rename_i op digits hread
      split at h
      · rename_i hdigits
        obtain ⟨sign, hsign, hcs⟩ := CompareOp.exists_spelling_of_read? hread
        have htarget : IsNumeral digits := ⟨hdigits.1, List.all_eq_true.mp hdigits.2⟩
        refine ⟨some ⟨op, sign, digits, hsign, htarget⟩, ?_, hcs⟩
        simpa [ComparisonForm.parts] using h
      · simp at h
    · simp at h

/-! ## Rolls -/

/-- A piece with more pieces behind it is a group and nothing else. -/
theorem BRollText.ofPieces?_cons {piece : List Char} {pieces : List (List Char)}
    (h : pieces ≠ []) :
    ofPieces? (piece :: pieces) =
      (GroupText.read? piece).bind fun (group, rest) =>
        if rest = [] then
          (ofPieces? pieces).map fun text => { text with groups := group :: text.groups }
        else none := by
  rw [ofPieces?]
  · cases GroupText.read? piece with
    | none => rfl
    | some found =>
      obtain ⟨group, rest⟩ := found
      by_cases hrest : rest = []
      · cases ofPieces? pieces <;> simp [hrest]
      · simp [hrest]
  · exact h

namespace BRollForm

/-- The pieces between the `+` of a roll; the last one goes on with the comparison. -/
def pieces (comparison : Option ComparisonForm) : List GroupForm → List (List Char)
  | [] => []
  | [g] => [g.text ++ ending comparison]
  | g :: groups => g.text :: pieces comparison groups

theorem pieces_cons_cons (comparison : Option ComparisonForm) (g g' : GroupForm)
    (groups : List GroupForm) :
    pieces comparison (g :: g' :: groups) = g.text :: pieces comparison (g' :: groups) := rfl

theorem pieces_ne_nil (comparison : Option ComparisonForm) {groups : List GroupForm}
    (h : groups ≠ []) : pieces comparison groups ≠ [] := by
  cases groups with
  | nil => exact absurd rfl h
  | cons g groups => cases groups <;> simp [pieces]

theorem intercalate_pieces (comparison : Option ComparisonForm) {groups : List GroupForm}
    (h : groups ≠ []) :
    ['+'].intercalate (pieces comparison groups) =
      ['+'].intercalate (groups.map GroupForm.text) ++ ending comparison := by
  -- The comparison goes with the last piece, so one piece and more of them are told apart.
  induction groups with
  | nil => exact absurd rfl h
  | cons g groups ih =>
    cases groups with
    | nil => simp [pieces]
    | cons g' groups =>
      have hne : pieces comparison (g' :: groups) ≠ [] := pieces_ne_nil comparison (by simp)
      rw [pieces_cons_cons, List.intercalate_cons_of_ne_nil hne, ih (by simp)]
      simp

theorem not_mem_text {g : GroupForm} : '+' ∉ g.text := by
  have hnum : ∀ {digits : List Char}, IsNumeral digits → '+' ∉ digits := by
    intro digits hdigits hmem
    have h := hdigits.2 '+' hmem
    simp at h
  have hmark : '+' ≠ g.mark := by
    rcases g.mark_eq with h | h <;> simp [h]
  simp [GroupForm.text, hnum g.times_isNumeral, hnum g.sides_isNumeral, hmark]

theorem not_mem_ending {comparison : Option ComparisonForm} : '+' ∉ ending comparison := by
  cases comparison with
  | none => simp [ending]
  | some c =>
    have hsign := (CompareOp.of_mem_spellings c.sign_mem).1
    have htarget : '+' ∉ c.target := by
      intro hmem
      have h := c.target_isNumeral.2 '+' hmem
      simp at h
    simp [ending, ComparisonForm.text, hsign, htarget]

theorem not_mem_of_mem_pieces {comparison : Option ComparisonForm} {groups : List GroupForm} :
    ∀ piece ∈ pieces comparison groups, '+' ∉ piece := by
  induction groups with
  | nil => simp [pieces]
  | cons g groups ih =>
    cases groups with
    | nil => simp [pieces, not_mem_text, not_mem_ending]
    | cons g' groups =>
      intro piece hpiece
      rw [pieces_cons_cons] at hpiece
      rcases List.mem_cons.mp hpiece with rfl | hpiece
      · exact not_mem_text
      · exact ih piece hpiece

theorem ofPieces?_pieces (comparison : Option ComparisonForm) {groups : List GroupForm}
    (h : groups ≠ []) :
    BRollText.ofPieces? (pieces comparison groups) =
      some ⟨groups.map GroupForm.parts, comparison.map ComparisonForm.parts⟩ := by
  -- As in `intercalate_pieces`: only behind the last group may there be a comparison.
  induction groups with
  | nil => exact absurd rfl h
  | cons g groups ih =>
    cases groups with
    | nil =>
      simp [pieces, BRollText.ofPieces?, GroupText.read?_text g (noDigitFirst_ending comparison),
        readComparison?_ending]
    | cons g' groups =>
      have hne : pieces comparison (g' :: groups) ≠ [] := pieces_ne_nil comparison (by simp)
      have hread := GroupText.read?_text g noDigitFirst_nil
      rw [List.append_nil] at hread
      rw [pieces_cons_cons, BRollText.ofPieces?_cons hne, hread]
      simp [ih]

/-- Pieces that are read are the pieces of a form. -/
theorem exists_pieces_of_ofPieces? {ps : List (List Char)} {parts : BRollText}
    (h : BRollText.ofPieces? ps = some parts) :
    ∃ (groups : List GroupForm) (comparison : Option ComparisonForm), groups ≠ [] ∧
      ps = pieces comparison groups ∧
      parts = ⟨groups.map GroupForm.parts, comparison.map ComparisonForm.parts⟩ := by
  -- Each piece gives back its group; what is left of the last one is the comparison.
  induction ps generalizing parts with
  | nil => simp [BRollText.ofPieces?] at h
  | cons piece ps ih =>
    by_cases hps : ps = []
    · subst hps
      simp only [BRollText.ofPieces?, Option.bind_eq_bind, Option.bind_eq_some_iff,
        Option.pure_def, Option.some.injEq, Prod.exists] at h
      obtain ⟨gparts, rest, hgroup, cparts, hcomparison, rfl⟩ := h
      obtain ⟨g, rfl, rfl⟩ := GroupText.exists_form_of_read? hgroup
      obtain ⟨c, rfl, rfl⟩ := exists_form_of_readComparison? hcomparison
      exact ⟨[g], c, by simp, rfl, rfl⟩
    · rw [BRollText.ofPieces?_cons hps] at h
      simp only [Option.bind_eq_some_iff, Prod.exists] at h
      obtain ⟨gparts, rest, hgroup, h⟩ := h
      split at h
      · rename_i hrest
        simp only [Option.map_eq_some_iff] at h
        obtain ⟨text, htext, rfl⟩ := h
        obtain ⟨g, rfl, rfl⟩ := GroupText.exists_form_of_read? hgroup
        obtain ⟨groups, c, hne, rfl, rfl⟩ := ih htext
        refine ⟨g :: groups, c, by simp, ?_, rfl⟩
        obtain ⟨g', gs, rfl⟩ := List.exists_cons_of_ne_nil hne
        rw [pieces_cons_cons, hrest, List.append_nil]
      · simp at h

/-- Every form is read as its parts. -/
theorem read?_text (f : BRollForm) : BRollText.read? f.text = some f.parts := by
  unfold BRollText.read?
  rw [text, ← intercalate_pieces f.comparison f.groups_ne_nil,
    List.splitOn_intercalate _ not_mem_of_mem_pieces (pieces_ne_nil f.comparison f.groups_ne_nil)]
  exact ofPieces?_pieces f.comparison f.groups_ne_nil

end BRollForm

/-- What is read is a form. -/
theorem BRollText.exists_form_of_read? {cs : List Char} {parts : BRollText}
    (h : read? cs = some parts) : ∃ f : BRollForm, f.text = cs ∧ f.parts = parts := by
  obtain ⟨groups, c, hne, hps, rfl⟩ := BRollForm.exists_pieces_of_ofPieces? h
  refine ⟨⟨groups, c, hne⟩, ?_, rfl⟩
  rw [BRollForm.text, ← BRollForm.intercalate_pieces c hne, ← hps, List.intercalate_splitOn]

/-- A roll starts with its first group. -/
theorem BRollForm.exists_group (f : BRollForm) :
    ∃ (g : GroupForm) (rest : List Char), f.text = g.text ++ rest := by
  obtain ⟨g, groups, hgroups⟩ := List.exists_cons_of_ne_nil f.groups_ne_nil
  cases groups with
  | nil => exact ⟨g, ending f.comparison, by simp [text, hgroups]⟩
  | cons g' groups => exact ⟨g, _, by simp [text, hgroups]; rfl⟩

/-- A roll starts with a digit. -/
theorem BRollForm.exists_digit (f : BRollForm) :
    ∃ c rest, f.text = c :: rest ∧ c.isDigit = true := by
  obtain ⟨g, rest, htext⟩ := f.exists_group
  obtain ⟨c, digits, htimes⟩ := List.exists_cons_of_ne_nil g.times_isNumeral.1
  have hc : c.isDigit = true := g.times_isNumeral.2 c (by simp [htimes])
  exact ⟨c, _, by rw [htext, GroupForm.text, htimes]; rfl, hc⟩

/-- What holds of digits, of the letter in either case, of `+` and of the characters of signs holds
of all characters of a roll. -/
theorem BRollForm.forall_mem_text {P : Char → Prop} (hdigit : ∀ c, c.isDigit = true → P c)
    (hmark : P 'B' ∧ P 'b') (hplus : P '+') (hsign : P '<' ∧ P '>' ∧ P '=' ∧ P '!')
    (f : BRollForm) : ∀ c ∈ f.text, P c := by
  have hnumeral : ∀ {digits : List Char}, IsNumeral digits → ∀ c ∈ digits, P c :=
    fun hdigits c hc => hdigit c (hdigits.2 c hc)
  have hgroup : ∀ g : GroupForm, ∀ c ∈ g.text, P c := by
    intro g c hc
    simp only [GroupForm.text, List.mem_append, List.mem_cons] at hc
    rcases hc with hc | rfl | hc
    · exact hnumeral g.times_isNumeral c hc
    · rcases g.mark_eq with h | h <;> rw [h]
      · exact hmark.1
      · exact hmark.2
    · exact hnumeral g.sides_isNumeral c hc
  -- The groups come with `+` between them, so the first of them is taken off by itself.
  have hgroups : ∀ groups : List GroupForm,
      ∀ c ∈ ['+'].intercalate (groups.map GroupForm.text), P c := by
    intro groups
    induction groups with
    | nil => simp
    | cons g groups ih =>
      cases groups with
      | nil => simpa using hgroup g
      | cons g' groups =>
        intro c hc
        rw [List.map_cons, List.intercalate_cons_of_ne_nil (by simp)] at hc
        simp only [List.mem_append, List.mem_singleton] at hc
        rcases hc with (hc | rfl) | hc
        · exact hgroup g c hc
        · exact hplus
        · exact ih c hc
  have hending : ∀ c ∈ ending f.comparison, P c := by
    cases f.comparison with
    | none => simp [ending]
    | some comparison =>
      have hsigns : ∀ op : CompareOp, ∀ sign ∈ op.spellings, ∀ c ∈ sign, P c := by
        intro op
        cases op <;> simp [CompareOp.spellings, hsign]
      intro c hc
      simp only [ending, Option.map_some, Option.getD_some, ComparisonForm.text,
        List.mem_append] at hc
      rcases hc with hc | hc
      · exact hsigns comparison.op comparison.sign comparison.sign_mem c hc
      · exact hnumeral comparison.target_isNumeral c hc
  intro c hc
  rw [text, List.mem_append] at hc
  rcases hc with hc | hc
  · exact hgroups f.groups c hc
  · exact hending c hc

/-! ## Numbers of groups -/

/-- A group is read before the groups behind it, its dice before their sides. -/
theorem readGroups_cons (g : GroupText) (groups : List GroupText) :
    readGroups (g :: groups) =
      match readNumber g.times with
      | .error fault => .error fault
      | .ok times =>
        match readNumber g.sides with
        | .error fault => .error fault
        | .ok sides =>
          if times = 0 ∨ sides = 0 then .ok (.error g)
          else (readGroups groups).map fun read => read.map (⟨times, sides⟩ :: ·) := by
  simp only [readGroups, bind, Except.bind, pure, Except.pure]
  cases readNumber g.times with
  | error fault => rfl
  | ok times =>
    cases readNumber g.sides with
    | error fault => rfl
    | ok sides =>
      by_cases hempty : times = 0 ∨ sides = 0
      · simp only [hempty, if_true]
      · simp only [hempty, if_false]
        cases readGroups groups <;> rfl

/-- Groups that are all read begin with one that has dice, and dice with sides. -/
theorem exists_of_readGroups_cons {g : GroupText} {texts : List GroupText}
    {groups : List DiceGroup} (h : readGroups (g :: texts) = .ok (.ok groups)) :
    ∃ times sides rest, readNumber g.times = .ok times ∧ readNumber g.sides = .ok sides ∧
      ¬ (times = 0 ∨ sides = 0) ∧ readGroups texts = .ok (.ok rest) ∧
      groups = ⟨times, sides⟩ :: rest := by
  rw [readGroups_cons] at h
  cases htimes : readNumber g.times with
  | error fault => simp [htimes] at h
  | ok times =>
    cases hsides : readNumber g.sides with
    | error fault => simp [htimes, hsides] at h
    | ok sides =>
      simp only [htimes, hsides] at h
      split at h
      · simp at h
      · rename_i hempty
        cases hrest : readGroups texts with
        | error fault => simp [hrest, Except.map] at h
        | ok read =>
          cases read with
          | error g => simp [hrest, Except.map] at h
          | ok rest =>
            simp only [hrest, Except.map, Except.ok.injEq] at h
            exact ⟨times, sides, rest, rfl, rfl, hempty, rfl, h.symm⟩

end ChatDice
